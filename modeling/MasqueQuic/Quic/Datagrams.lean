/-
Datagrams on their way out and in.

`writeDatagram` puts a datagram at the end of the write buffer, and the datagram scheduler
takes datagrams from its front while they fit into the packet; `handleDatagram` puts what
arrives at the end of the read buffer, and the application takes it from the front. Either
buffer drops the oldest or the newest datagram when it is full.

The size of a datagram that the application may write is computed with one constant for
all overhead (`getDatagramSizeLimit`), the space that a packet has for it from the actual
header (`emptyPacket`). `DatagramSocket` is the connection with a record of what went
through the buffers.
-/

import MasqueQuic.Lib.Ends
import MasqueQuic.Quic.BufQueue
import MasqueQuic.Quic.QuicException
import MasqueQuic.Quic.QuicInteger

namespace MasqueQuic

def kMaxDatagramPacketOverhead : Nat := 25 + 16
def kDefaultMaxDatagramFrameSize : Nat := 65535

structure DatagramConfig where
  framePerPacket : Bool
  recvDropOldDataFirst : Bool
  sendDropOldDataFirst : Bool
  deriving DecidableEq

structure ReadDatagram where
  receiveTimePoint : Nat
  bufQueue : BufQueue
  deriving DecidableEq

/-- `conn.datagramState`. -/
structure DatagramQueues where
  maxReadFrameSize : Nat
  maxWriteFrameSize : Nat
  maxReadBufferSize : Nat
  maxWriteBufferSize : Nat
  readBuffer : List ReadDatagram
  writeBuffer : List BufQueue
  deriving DecidableEq

inductive DatagramFault where
  | emptyQueue      -- `front()` or `pop_front()` on an empty queue
  | notWritten      -- `CHECK_GT(res, 0)`
  | conversion      -- `folly::to<uint32_t>` of a larger number
  | noHeader        -- `CHECK(packetNumberEncoding_)`
  | exception (e : QuicException)
  deriving DecidableEq

/-! ### The size limit -/

/-- `maxWriteFrameSize` after `processClientInitialParams` has seen the peer's parameter. The
field has 32 bits. -/
def maxWriteFrameSizeOf (maxDatagramFrameSize : Option Nat) : Except QuicException Nat :=
  match maxDatagramFrameSize with
  | none => .ok kDefaultMaxDatagramFrameSize
  | some value =>
      if 0 < value ∧ value ≤ kMaxDatagramPacketOverhead then
        .error (.transport "max_datagram_frame_size too small" .transportParameterError)
      else .ok (value % 2 ^ 32)

/-- The subtraction is one of unsigned 64-bit numbers, and the result has 16 bits. -/
def getDatagramSizeLimit (maxWriteFrameSize udpSendPacketLen : Nat) : Nat :=
  let maxDatagramPacketSize := min maxWriteFrameSize udpSendPacketLen
  max 0 ((maxDatagramPacketSize + 2 ^ 64 - kMaxDatagramPacketOverhead) % 2 ^ 64) % 2 ^ 16

/-! ### Packets -/

def QuicInteger.getSize (value : Nat) : Except DatagramFault Nat :=
  match getQuicIntegerSize value with
  | some size => .ok size
  | none => .error (.exception (.transport ("Value too large " ++ toString value) .internalError))

/-- `PacketBuilderWrapper`: what is left of a packet for frames. -/
structure PacketSpace where
  remainingBytes : Nat
  diff : Nat
  deriving DecidableEq

namespace PacketSpace

def wrap (remainingBytes writableBytes : Nat) : PacketSpace :=
  ⟨remainingBytes, if writableBytes > remainingBytes then 0 else remainingBytes - writableBytes⟩

def remainingSpaceInPkt (b : PacketSpace) : Nat :=
  if b.remainingBytes > b.diff then b.remainingBytes - b.diff else 0

end PacketSpace

/-- A packet with a short header and no frames yet, as `writeConnectionDataToSocket` sets it
up when the congestion controller allows a full packet. -/
def emptyPacket (udpSendPacketLen cipherOverhead connectionIdSize packetNumberLength : Nat) :
    Except DatagramFault PacketSpace :=
  if 2 ^ 32 ≤ udpSendPacketLen then .error .conversion
  else
    let writableBytes :=
      if udpSendPacketLen < cipherOverhead then 0 else udpSendPacketLen - cipherOverhead
    let remainingBytes := (udpSendPacketLen + 2 ^ 32 - cipherOverhead) % 2 ^ 32
    let headerBytes := 1 + connectionIdSize + packetNumberLength
    if remainingBytes < headerBytes then .error .noHeader
    else
      let writableBytes :=
        if writableBytes > headerBytes then writableBytes - headerBytes else 0
      .ok (.wrap (remainingBytes - headerBytes) writableBytes)

def kDatagramLen : Nat := 0x31

/-- The size of a DATAGRAM frame with a length field. -/
def datagramFrameLength (len : Nat) : Except DatagramFault Nat := do
  let frameTypeSize ← QuicInteger.getSize kDatagramLen
  let datagramLenSize ← QuicInteger.getSize len
  return frameTypeSize + len + datagramLenSize

/-- `writeFrame` for a DATAGRAM frame: the bytes written, or zero without space for it. -/
def writeDatagramFrame (space : PacketSpace) (len : Nat) :
    Except DatagramFault (Nat × PacketSpace) := do
  let length ← datagramFrameLength len
  if length ≤ space.remainingSpaceInPkt then
    return (length, { space with remainingBytes := space.remainingBytes - length })
  else return (0, space)

/-! ### The datagram scheduler -/

/-- The write buffer, and the packet with the datagrams that are in it. -/
structure DatagramWrite where
  space : PacketSpace
  writeBuffer : List BufQueue
  frames : List BufQueue
  deriving DecidableEq

/-- One round of the loop of `writeDatagramFrames`. -/
def writeFront (w : DatagramWrite) : Except DatagramFault DatagramWrite :=
  match w.writeBuffer with
  | [] => .error .emptyQueue
  | payload :: rest => do
      let length ← datagramFrameLength payload.chainLength
      if length ≤ w.space.remainingSpaceInPkt then
        let (res, space) ← writeDatagramFrame w.space payload.chainLength
        if res = 0 then .error .notWritten
        else return { space, writeBuffer := rest, frames := w.frames ++ [payload] }
      else return w

/-- The loop from index `i` on. It compares `i` with the number of datagrams that are left,
which does not grow, so the number of rounds given as the first argument is enough. -/
def writeDatagramLoop (framePerPacket : Bool) :
    Nat → Nat → DatagramWrite → Except DatagramFault DatagramWrite
  | 0, _, w => .ok w
  | rounds + 1, i, w =>
      if i ≤ w.writeBuffer.length then do
        let w ← writeFront w
        if framePerPacket then return w
        else writeDatagramLoop framePerPacket rounds (i + 1) w
      else .ok w

def writeDatagramFrames (framePerPacket : Bool) (space : PacketSpace)
    (writeBuffer : List BufQueue) : Except DatagramFault DatagramWrite :=
  writeDatagramLoop framePerPacket (writeBuffer.length + 1) 0 ⟨space, writeBuffer, []⟩

/-- Faults that are exceptions, which close the connection. -/
def DatagramFault.IsException : DatagramFault → Prop
  | .exception _ => True
  | _ => False

section Loop

variable {E : DatagramFault → Prop} {w : DatagramWrite} {payload : BufQueue}
  {rest : List BufQueue} {length : Nat}

theorem getSize_ends (value : Nat) :
    Ends DatagramFault.IsException (QuicInteger.getSize value) (fun size => 1 ≤ size) := by
  unfold QuicInteger.getSize
  cases hsize : getQuicIntegerSize value with
  | none => exact .error trivial
  | some size =>
    refine .ok ?_
    unfold getQuicIntegerSize at hsize
    split_ifs at hsize <;> cases hsize <;> omega

theorem datagramFrameLength_ends (len : Nat) :
    Ends DatagramFault.IsException (datagramFrameLength len) (fun length => 0 < length) := by
  refine (getSize_ends kDatagramLen).bind fun typeSize htype => ?_
  refine (getSize_ends len).bind fun lenSize _ => .ok ?_
  omega

/-- The front goes into a packet that has the space. -/
theorem writeFront_eq (hbuffer : w.writeBuffer = payload :: rest)
    (hlength : datagramFrameLength payload.chainLength = .ok length) (hpos : 0 < length)
    (hfits : length ≤ w.space.remainingSpaceInPkt) :
    writeFront w = .ok {
      space := { w.space with remainingBytes := w.space.remainingBytes - length }
      writeBuffer := rest
      frames := w.frames ++ [payload] } := by
  have hwrite : writeDatagramFrame w.space payload.chainLength =
      .ok (length, { w.space with remainingBytes := w.space.remainingBytes - length }) := by
    unfold writeDatagramFrame
    rw [hlength]
    exact if_pos hfits
  unfold writeFront
  rw [hbuffer]
  dsimp only
  rw [hlength, except_ok_bind, if_pos hfits, hwrite, except_ok_bind]
  exact if_neg (Nat.ne_of_gt hpos)

/-- What one round does: the front goes into the packet, or nothing happens. -/
theorem writeFront_ends (hbuffer : w.writeBuffer = payload :: rest)
    (hlength : Ends E (datagramFrameLength payload.chainLength) (fun length => 0 < length)) :
    Ends E (writeFront w) (fun w' =>
      w' = w ∨ w'.writeBuffer = rest ∧ w'.frames = w.frames ++ [payload]) := by
  cases hframe : datagramFrameLength payload.chainLength with
  | error e =>
    unfold writeFront
    rw [hbuffer]
    dsimp only
    rw [hframe]
    exact hlength.of_error hframe
  | ok length =>
    by_cases hfits : length ≤ w.space.remainingSpaceInPkt
    · rw [writeFront_eq hbuffer hframe (hlength.of_ok hframe) hfits]
      exact .ok (.inr ⟨rfl, rfl⟩)
    · unfold writeFront
      rw [hbuffer]
      dsimp only
      rw [hframe, except_ok_bind, if_neg hfits]
      exact .ok (.inl rfl)

/-- `w'` is `w` after some datagrams have gone from the front of the buffer into the packet. -/
def DatagramWrite.Moved (w w' : DatagramWrite) : Prop :=
  ∃ moved, w'.frames = w.frames ++ moved ∧ w.writeBuffer = moved ++ w'.writeBuffer

theorem DatagramWrite.Moved.refl (w : DatagramWrite) : w.Moved w :=
  ⟨[], (List.append_nil _).symm, rfl⟩

theorem DatagramWrite.Moved.trans {w' w'' : DatagramWrite} (h : w.Moved w') (h' : w'.Moved w'') :
    w.Moved w'' := by
  obtain ⟨moved, hframes, hbuffer⟩ := h
  obtain ⟨moved', hframes', hbuffer'⟩ := h'
  refine ⟨moved ++ moved', ?_, ?_⟩
  · rw [hframes', hframes, List.append_assoc]
  · rw [hbuffer, hbuffer', List.append_assoc]

/-- The loop moves datagrams into the packet, and does not look at the front of an empty
buffer. -/
theorem writeDatagramLoop_ends (framePerPacket : Bool) (rounds i : Nat)
    (hfront : i = 0 → w.writeBuffer ≠ [])
    (hlength : ∀ q ∈ w.writeBuffer,
      Ends E (datagramFrameLength q.chainLength) (fun length => 0 < length)) :
    Ends E (writeDatagramLoop framePerPacket rounds i w) w.Moved := by
  induction rounds generalizing i w with
  | zero => exact .ok (.refl w)
  | succ rounds ih =>
    rw [writeDatagramLoop]
    refine Ends.ite (fun hi => ?_) fun _ => .ok (.refl w)
    obtain ⟨payload, rest, hbuffer⟩ : ∃ payload rest, w.writeBuffer = payload :: rest := by
      refine List.exists_cons_of_ne_nil fun hnil => ?_
      rw [hnil, List.length_nil] at hi
      exact hfront (Nat.le_zero.mp hi) hnil
    rw [hbuffer] at hlength
    refine (writeFront_ends hbuffer (hlength payload List.mem_cons_self)).bind fun w' hw' => ?_
    have hmoved : w.Moved w' := by
      rcases hw' with rfl | ⟨hrest, hframes⟩
      · exact .refl w'
      · exact ⟨[payload], hframes, by rw [hbuffer, hrest, List.singleton_append]⟩
    have hsub : ∀ q ∈ w'.writeBuffer, q ∈ payload :: rest := by
      obtain ⟨moved, -, hw⟩ := hmoved
      intro q hq
      rw [← hbuffer, hw]
      exact List.mem_append_right moved hq
    refine Ends.ite (fun _ => .ok hmoved) fun _ => ?_
    refine (ih (i + 1) (fun hzero => absurd hzero (Nat.succ_ne_zero i)) fun q hq => ?_).imp
      fun w'' hw'' => hmoved.trans hw''
    exact hlength q (hsub q hq)

end Loop

/-! ### Progress of the queue -/

/-- What the application is told it may send can be sent: the limit is within the sizes it is
derived from, and when the queue holds nothing above the limit, its front goes into an empty
packet. -/
structure DatagramProgress (maxWriteFrameSize udpSendPacketLen cipherOverhead connectionIdSize
    packetNumberLength : Nat) : Prop where
  limited : getDatagramSizeLimit maxWriteFrameSize udpSendPacketLen ≤
    min maxWriteFrameSize udpSendPacketLen
  sent : maxWriteFrameSize ≠ 0 → ∀ (framePerPacket : Bool) (payload : BufQueue)
    (rest : List BufQueue), (∀ q ∈ payload :: rest,
      q.chainLength ≤ getDatagramSizeLimit maxWriteFrameSize udpSendPacketLen) →
    ∃ space w, emptyPacket udpSendPacketLen cipherOverhead connectionIdSize packetNumberLength =
        .ok space ∧
      writeDatagramFrames framePerPacket space (payload :: rest) = .ok w ∧
      w.frames.head? = some payload

/-- The space in an empty packet, where the header fits. -/
theorem emptyPacket_eq (udpSendPacketLen cipherOverhead connectionIdSize packetNumberLength : Nat)
    (hlen : udpSendPacketLen < 2 ^ 32)
    (hheader : cipherOverhead + 1 + connectionIdSize + packetNumberLength ≤ udpSendPacketLen) :
    ∃ space, emptyPacket udpSendPacketLen cipherOverhead connectionIdSize packetNumberLength =
        .ok space ∧
      space.remainingSpaceInPkt =
        udpSendPacketLen - cipherOverhead - 1 - connectionIdSize - packetNumberLength := by
  have hremaining : (udpSendPacketLen + 2 ^ 32 - cipherOverhead) % 2 ^ 32 =
      udpSendPacketLen - cipherOverhead := by omega
  have hoverhead : ¬ udpSendPacketLen < cipherOverhead := by omega
  have hspace : ¬ udpSendPacketLen - cipherOverhead <
      1 + connectionIdSize + packetNumberLength := by omega
  unfold emptyPacket
  dsimp only
  rw [if_neg (Nat.not_le_of_lt hlen), hremaining, if_neg hoverhead, if_neg hspace]
  refine ⟨_, rfl, ?_⟩
  unfold PacketSpace.wrap PacketSpace.remainingSpaceInPkt
  dsimp only
  split_ifs <;> omega

/-- The length of a frame whose payload has at most 16 bits of length. -/
theorem datagramFrameLength_eq {len : Nat} (hlen : len < 2 ^ 16) :
    datagramFrameLength len = .ok (1 + len + (getQuicIntegerSize len).getD 0) ∧
      1 ≤ (getQuicIntegerSize len).getD 0 := by
  have hsome : ∃ size, getQuicIntegerSize len = some size ∧ 1 ≤ size := by
    unfold getQuicIntegerSize kOneByteLimit kTwoByteLimit kFourByteLimit
    split_ifs with h1 h2 h3 h4
    · exact ⟨1, rfl, le_rfl⟩
    · exact ⟨2, rfl, by omega⟩
    · exact ⟨4, rfl, by omega⟩
    · exact ⟨8, rfl, by omega⟩
    · omega
  obtain ⟨size, hsize, hpos⟩ := hsome
  unfold datagramFrameLength QuicInteger.getSize
  rw [hsize]
  exact ⟨rfl, hpos⟩

/-- Longer payloads need longer frames. -/
theorem quicIntegerSize_mono {len len' : Nat} (hle : len ≤ len') (hlen : len' < 2 ^ 16) :
    (getQuicIntegerSize len).getD 0 ≤ (getQuicIntegerSize len').getD 0 := by
  unfold getQuicIntegerSize kOneByteLimit kTwoByteLimit kFourByteLimit
  split_ifs <;> simp <;> omega

theorem getDatagramSizeLimit_eq {maxWriteFrameSize udpSendPacketLen : Nat}
    (hle : kMaxDatagramPacketOverhead ≤ min maxWriteFrameSize udpSendPacketLen) :
    getDatagramSizeLimit maxWriteFrameSize udpSendPacketLen =
      (min maxWriteFrameSize udpSendPacketLen - kMaxDatagramPacketOverhead) % 2 ^ 16 := by
  unfold getDatagramSizeLimit kMaxDatagramPacketOverhead at *
  dsimp only
  omega

/-- A limit below the constant wraps around. -/
theorem getDatagramSizeLimit_wraps {maxWriteFrameSize udpSendPacketLen : Nat}
    (hlt : min maxWriteFrameSize udpSendPacketLen < kMaxDatagramPacketOverhead) :
    min maxWriteFrameSize udpSendPacketLen <
      getDatagramSizeLimit maxWriteFrameSize udpSendPacketLen := by
  unfold getDatagramSizeLimit kMaxDatagramPacketOverhead at *
  dsimp only
  omega

section Progress

variable {maxWriteFrameSize udpSendPacketLen connectionIdSize packetNumberLength limit : Nat}

/-- The size of a packet with a datagram of the given length and nothing else. -/
def datagramPacketSize (connectionIdSize packetNumberLength len : Nat) : Nat :=
  1 + connectionIdSize + packetNumberLength + (1 + len + (getQuicIntegerSize len).getD 0) + 16

/-- A queue without datagrams above a limit that fits is sent from. -/
theorem writeDatagramFrames_head (hlen : udpSendPacketLen < 2 ^ 32) (hlimit : limit < 2 ^ 16)
    (hfits : datagramPacketSize connectionIdSize packetNumberLength limit ≤ udpSendPacketLen)
    (framePerPacket : Bool) {payload : BufQueue} {rest : List BufQueue}
    (hall : ∀ q ∈ payload :: rest, q.chainLength ≤ limit) :
    ∃ space w, emptyPacket udpSendPacketLen 16 connectionIdSize packetNumberLength = .ok space ∧
      writeDatagramFrames framePerPacket space (payload :: rest) = .ok w ∧
      w.frames.head? = some payload := by
  unfold datagramPacketSize at hfits
  obtain ⟨space, hspace, hremaining⟩ :=
    emptyPacket_eq udpSendPacketLen 16 connectionIdSize packetNumberLength hlen (by omega)
  have hlength : ∀ q ∈ payload :: rest, Ends (fun _ => False)
      (datagramFrameLength q.chainLength) (fun length => 0 < length) := by
    intro q hq
    rw [(datagramFrameLength_eq ((hall q hq).trans_lt hlimit)).1]
    exact .ok (by omega)
  have hle := hall payload List.mem_cons_self
  have hwidth := quicIntegerSize_mono hle hlimit
  have hfront : ∃ w, writeFront ⟨space, payload :: rest, []⟩ = .ok w ∧ w.frames = [payload] ∧
      w.writeBuffer = rest := by
    refine ⟨_, writeFront_eq rfl (datagramFrameLength_eq (hle.trans_lt hlimit)).1 (by omega) ?_,
      rfl, rfl⟩
    rw [hremaining]
    omega
  obtain ⟨w, hw, hframes, hbuffer⟩ := hfront
  have hsent : Ends (fun _ => False) (writeDatagramFrames framePerPacket space (payload :: rest))
      (fun w => w.frames.head? = some payload) := by
    unfold writeDatagramFrames
    rw [writeDatagramLoop, if_pos (Nat.zero_le _), hw, except_ok_bind]
    refine Ends.ite (fun _ => .ok (by rw [hframes]; rfl)) fun _ => ?_
    refine (writeDatagramLoop_ends framePerPacket _ 1 (fun hzero => absurd hzero one_ne_zero)
      fun q hq => ?_).imp fun w' hw' => ?_
    · rw [hbuffer] at hq
      exact hlength q (List.mem_cons_of_mem payload hq)
    · obtain ⟨moved, hmoved, -⟩ := hw'
      rw [hmoved, hframes]
      rfl
  obtain ⟨w', hw', hhead⟩ := hsent.exists_ok
  exact ⟨space, w', hspace, hw', hhead⟩

/-- A datagram that is too long for an empty packet stays in the queue. -/
theorem packetSize_le_of_sent {space : PacketSpace} {payload : BufQueue} {w : DatagramWrite}
    (hlen : payload.chainLength < 2 ^ 16)
    (hheader : 17 + connectionIdSize + packetNumberLength ≤ udpSendPacketLen)
    (hspace : emptyPacket udpSendPacketLen 16 connectionIdSize packetNumberLength = .ok space)
    (hw : writeDatagramFrames true space [payload] = .ok w)
    (hhead : w.frames.head? = some payload) :
    udpSendPacketLen < 2 ^ 32 ∧
      datagramPacketSize connectionIdSize packetNumberLength payload.chainLength ≤
        udpSendPacketLen := by
  have hlt : udpSendPacketLen < 2 ^ 32 := by
    by_contra hge
    unfold emptyPacket at hspace
    rw [if_pos (Nat.le_of_not_lt hge)] at hspace
    cases hspace
  refine ⟨hlt, ?_⟩
  obtain ⟨space', hspace', hremaining⟩ :=
    emptyPacket_eq udpSendPacketLen 16 connectionIdSize packetNumberLength hlt (by omega)
  obtain rfl : space' = space := Except.ok.inj (hspace'.symm.trans hspace)
  unfold datagramPacketSize
  by_contra hlong
  have hfront : writeFront ⟨space', [payload], []⟩ = .ok ⟨space', [payload], []⟩ := by
    unfold writeFront
    dsimp only
    rw [(datagramFrameLength_eq hlen).1, except_ok_bind, if_neg (by omega)]
    rfl
  unfold writeDatagramFrames at hw
  rw [writeDatagramLoop, if_pos (Nat.zero_le _), hfront] at hw
  cases hw
  cases hhead

theorem exists_chainLength (len : Nat) : ∃ payload : BufQueue, payload.chainLength = len := by
  refine ⟨.ofBuf (some (.wrapBuffer (List.replicate len 0))), ?_⟩
  change (IOBuf.wrapBuffer (List.replicate len 0)).bytes.length = len
  simp [IOBuf.bytes, IOBuf.elems, IOBuf.wrapBuffer]

/-- What progress needs. -/
theorem DatagramProgress.fits
    (h : DatagramProgress maxWriteFrameSize udpSendPacketLen 16 connectionIdSize
      packetNumberLength)
    (hheader : 17 + connectionIdSize + packetNumberLength ≤ udpSendPacketLen) :
    41 ≤ maxWriteFrameSize ∧ udpSendPacketLen < 2 ^ 32 ∧
      datagramPacketSize connectionIdSize packetNumberLength
        ((min maxWriteFrameSize udpSendPacketLen - 41) % 2 ^ 16) ≤ udpSendPacketLen := by
  have hmin : 41 ≤ min maxWriteFrameSize udpSendPacketLen := by
    by_contra hlt
    exact absurd (getDatagramSizeLimit_wraps (Nat.lt_of_not_le hlt)) (Nat.not_lt.mpr h.limited)
  have hmax : 41 ≤ maxWriteFrameSize := hmin.trans (min_le_left _ _)
  obtain ⟨payload, hpayload⟩ :=
    exists_chainLength ((min maxWriteFrameSize udpSendPacketLen - 41) % 2 ^ 16)
  have hle : ∀ q ∈ [payload],
      q.chainLength ≤ getDatagramSizeLimit maxWriteFrameSize udpSendPacketLen := by
    intro q hq
    rw [List.mem_singleton.mp hq, hpayload, getDatagramSizeLimit_eq hmin]
    exact le_rfl
  obtain ⟨space, w, hspace, hw, hhead⟩ := h.sent (by omega) true payload [] hle
  have hshort : payload.chainLength < 2 ^ 16 := by
    rw [hpayload]
    exact Nat.mod_lt _ (by decide)
  have hfits := packetSize_le_of_sent hshort hheader hspace hw hhead
  rw [hpayload] at hfits
  exact ⟨hmax, hfits⟩

end Progress

/-- The queue makes progress exactly when the limit does not wrap around and a datagram of
the largest size fits behind the header. -/
theorem datagramProgress_iff (maxDatagramFrameSize : Option Nat)
    (udpSendPacketLen connectionIdSize packetNumberLength : Nat) (hlen : 1200 ≤ udpSendPacketLen)
    (hid : connectionIdSize ≤ 20) (hnum : 1 ≤ packetNumberLength ∧ packetNumberLength ≤ 4) :
    ∀ maxWriteFrameSize, maxWriteFrameSizeOf maxDatagramFrameSize = .ok maxWriteFrameSize →
      (DatagramProgress maxWriteFrameSize udpSendPacketLen 16 connectionIdSize
          packetNumberLength ↔
        41 ≤ maxWriteFrameSize ∧ udpSendPacketLen < 2 ^ 32 ∧
          datagramPacketSize connectionIdSize packetNumberLength
            ((min maxWriteFrameSize udpSendPacketLen - 41) % 2 ^ 16) ≤ udpSendPacketLen) := by
  intro maxWriteFrameSize _
  refine ⟨fun h => h.fits (by omega), ?_⟩
  rintro ⟨hmax, hlt, hfits⟩
  have hmin : 41 ≤ min maxWriteFrameSize udpSendPacketLen := le_min hmax (by omega)
  refine ⟨?_, fun _ framePerPacket payload rest hall => ?_⟩
  · rw [getDatagramSizeLimit_eq hmin]
    exact (Nat.mod_le _ _).trans (Nat.sub_le _ _)
  · rw [getDatagramSizeLimit_eq hmin] at hall
    exact writeDatagramFrames_head hlt (Nat.mod_lt _ (by decide)) hfits framePerPacket hall

/-- Connection ids of eight bytes leave enough space. -/
theorem datagramProgress_eightByteId :
    maxWriteFrameSizeOf none = .ok 65535 ∧ DatagramProgress 65535 1200 16 8 4 :=
  ⟨rfl, (datagramProgress_iff none 1200 8 4 le_rfl (by decide) (by decide) 65535 rfl).mpr
    (by decide)⟩

/-- With a connection id of twenty bytes and a packet number of two, a datagram of 1159 bytes
is within the limit and needs 1201 bytes. -/
theorem datagramProgress_fails :
    maxWriteFrameSizeOf none = .ok 65535 ∧ getDatagramSizeLimit 65535 1200 = 1159 ∧
      datagramPacketSize 20 2 1159 = 1201 ∧ ¬ DatagramProgress 65535 1200 16 20 2 := by
  refine ⟨rfl, by decide, by decide, fun h => ?_⟩
  have hfits := (h.fits (by decide)).2.2
  revert hfits
  decide

/-! ### The two buffers -/

/-- What becomes of a datagram that is to enter a buffer. -/
inductive DatagramOutcome (α : Type) where
  | refused
  /-- It is at the end of the buffer; the oldest one may have made room for it. -/
  | queued (dropped : Option α)

/-- The common part of `writeDatagram` and `handleDatagram`. -/
def enqueueDatagram {α : Type} (maxFrameSize maxBufferSize : Nat) (dropOldDataFirst : Bool)
    (buffer : List α) (datagram : α) : Except DatagramFault (List α × DatagramOutcome α) :=
  if maxFrameSize = 0 then .ok (buffer, .refused)
  else if buffer.length ≥ maxBufferSize then
    if ¬ dropOldDataFirst then .ok (buffer, .refused)
    else
      match buffer with
      | [] => .error .emptyQueue
      | oldest :: rest => .ok (rest ++ [datagram], .queued (some oldest))
  else .ok (buffer ++ [datagram], .queued none)

namespace DatagramQueues

/-- `INVALID_WRITE_DATA` is the outcome `refused`. -/
def writeDatagram (q : DatagramQueues) (sendDropOldDataFirst : Bool) (buf : BufQueue) :
    Except DatagramFault (List BufQueue × DatagramOutcome BufQueue) :=
  enqueueDatagram q.maxWriteFrameSize q.maxWriteBufferSize sendDropOldDataFirst q.writeBuffer buf

def handleDatagram (q : DatagramQueues) (recvDropOldDataFirst : Bool) (datagram : ReadDatagram) :
    Except DatagramFault (List ReadDatagram × DatagramOutcome ReadDatagram) :=
  enqueueDatagram q.maxReadFrameSize q.maxReadBufferSize recvDropOldDataFirst q.readBuffer
    datagram

/-- How many datagrams `readDatagrams` and `readDatagramBufs` take from the front. The second
one gives out the buffers only. -/
def readAtMost (q : DatagramQueues) (atMost : Nat) : Nat :=
  if atMost = 0 then q.readBuffer.length else min atMost q.readBuffer.length

end DatagramQueues

/-- How a datagram left a buffer: it went on its way, or it made room for another one. -/
inductive Departure where
  | passed
  | dropped
  deriving DecidableEq

/-- The datagrams that entered a buffer, and those that left it. -/
structure Passage (α : Type) where
  entered : List α
  left : List (α × Departure)

namespace Passage

variable {α : Type} {p : Passage α} {buffer : List α} {E : DatagramFault → Prop}

def enter (p : Passage α) (datagram : α) : DatagramOutcome α → Passage α
  | .refused => p
  | .queued dropped =>
      ⟨p.entered ++ [datagram], p.left ++ dropped.toList.map (·, .dropped)⟩

def pass (p : Passage α) (datagrams : List α) : Passage α :=
  { p with left := p.left ++ datagrams.map (·, .passed) }

/-- The datagrams that went on their way. -/
def passed (p : Passage α) : List α := (p.left.filter (·.2 = .passed)).map (·.1)

/-- What entered left in its order, and the rest is in the buffer. -/
structure Queued (p : Passage α) (buffer : List α) (maxBufferSize : Nat) (dropOldDataFirst : Bool) :
    Prop where
  inOrder : p.entered = p.left.map (·.1) ++ buffer
  policy : (∃ d ∈ p.left, d.2 = .dropped) → dropOldDataFirst = true
  bound : buffer.length ≤ maxBufferSize

theorem passed_enter (p : Passage α) (datagram : α) (outcome : DatagramOutcome α) :
    (p.enter datagram outcome).passed = p.passed := by
  cases outcome with
  | refused => rfl
  | queued dropped =>
    unfold passed enter
    cases dropped <;> simp

theorem passed_pass (p : Passage α) (datagrams : List α) :
    (p.pass datagrams).passed = p.passed ++ datagrams := by
  have hall : (datagrams.map ((·, Departure.passed) : α → α × Departure)).filter
      (·.2 = .passed) = datagrams.map (·, .passed) := by
    rw [List.filter_eq_self]
    intro d hd
    obtain ⟨x, -, rfl⟩ := List.mem_map.mp hd
    rfl
  unfold passed pass
  rw [List.filter_append, hall, List.map_append, List.map_map]
  exact congrArg _ (List.map_id _)

theorem Queued.passed_sublist {maxBufferSize : Nat} {dropOldDataFirst : Bool}
    (h : p.Queued buffer maxBufferSize dropOldDataFirst) : p.passed.Sublist p.entered := by
  rw [h.inOrder]
  exact (List.filter_sublist.map _).trans (List.sublist_append_left _ _)

/-- A datagram enters a buffer that has room for one, or refuses when it is full. -/
theorem Queued.enqueue {maxFrameSize maxBufferSize : Nat} {dropOldDataFirst : Bool}
    (h : p.Queued buffer maxBufferSize dropOldDataFirst)
    (hroom : dropOldDataFirst = true → maxFrameSize ≠ 0 → 0 < maxBufferSize) (datagram : α) :
    Ends E (enqueueDatagram maxFrameSize maxBufferSize dropOldDataFirst buffer datagram)
      (fun r => (p.enter datagram r.2).Queued r.1 maxBufferSize dropOldDataFirst) := by
  unfold enqueueDatagram
  refine Ends.ite (fun _ => .ok h) fun hframe => ?_
  refine Ends.ite (fun hfull => ?_) fun hspace => ?_
  · refine Ends.ite (fun _ => .ok h) fun hdrop => ?_
    have hold : dropOldDataFirst = true := not_not.mp hdrop
    cases buffer with
    | nil => exact absurd (hroom hold hframe) (Nat.not_lt.mpr hfull)
    | cons oldest rest =>
      refine .ok ⟨?_, fun _ => hold, ?_⟩
      · change p.entered ++ [datagram] =
          (p.left ++ [(oldest, Departure.dropped)]).map (·.1) ++ (rest ++ [datagram])
        rw [h.inOrder]
        simp
      · have hbound := h.bound
        rw [List.length_cons] at hbound
        rw [List.length_append, List.length_singleton]
        exact hbound
  · refine .ok ⟨?_, ?_, ?_⟩
    · change p.entered ++ [datagram] =
        (p.left ++ ([] : List (α × Departure))).map (·.1) ++ (buffer ++ [datagram])
      rw [h.inOrder, List.append_nil, List.append_assoc]
    · change (∃ d ∈ p.left ++ [], d.2 = .dropped) → _
      rw [List.append_nil]
      exact h.policy
    · rw [List.length_append, List.length_singleton]
      omega

/-- Datagrams leave from the front. -/
theorem Queued.pass {maxBufferSize : Nat} {dropOldDataFirst : Bool} {front rest : List α}
    (h : p.Queued (front ++ rest) maxBufferSize dropOldDataFirst) :
    (p.pass front).Queued rest maxBufferSize dropOldDataFirst := by
  refine ⟨?_, ?_, ?_⟩
  · change p.entered = (p.left ++ front.map (·, Departure.passed)).map (·.1) ++ rest
    rw [h.inOrder]
    simp [Function.comp_def]
  · rintro ⟨d, hd, hdropped⟩
    rcases List.mem_append.mp hd with hd | hd
    · exact h.policy ⟨d, hd, hdropped⟩
    · obtain ⟨x, -, rfl⟩ := List.mem_map.mp hd
      cases hdropped
  · have hbound := h.bound
    rw [List.length_append] at hbound
    omega

end Passage

/-! ### Runs -/

/-- A connection with a record of its datagrams: what went through the write buffer and into
each packet, what was received, and what went through the read buffer and was delivered. -/
structure DatagramSocket where
  config : DatagramConfig
  queues : DatagramQueues
  isOpen : Bool
  outgoing : Passage BufQueue
  packets : List (List BufQueue)
  received : List ReadDatagram
  incoming : Passage ReadDatagram
  delivered : List ReadDatagram

inductive DatagramEvent where
  | writeDatagram (buf : BufQueue)
  /-- A packet is built. The space is what the other schedulers have left of it. -/
  | buildPacket (space : PacketSpace)
  | handleDatagram (datagram : ReadDatagram)
  | readDatagrams (atMost : Nat)
  | close

namespace DatagramSocket

/-- Nothing has been sent or received. -/
def start (config : DatagramConfig) (maxReadFrameSize maxWriteFrameSize maxReadBufferSize
    maxWriteBufferSize : Nat) : DatagramSocket where
  config
  queues := ⟨maxReadFrameSize, maxWriteFrameSize, maxReadBufferSize, maxWriteBufferSize, [], []⟩
  isOpen := true
  outgoing := ⟨[], []⟩
  packets := []
  received := []
  incoming := ⟨[], []⟩
  delivered := []

def step (s : DatagramSocket) : DatagramEvent → Except DatagramFault DatagramSocket
  | .writeDatagram buf => do
      let (writeBuffer, outcome) ← s.queues.writeDatagram s.config.sendDropOldDataFirst buf
      return { s with
        queues := { s.queues with writeBuffer }
        outgoing := s.outgoing.enter buf outcome }
  | .buildPacket space =>
      -- `hasPendingDatagramFrames`
      if s.queues.writeBuffer.isEmpty then .ok s
      else do
        let w ← writeDatagramFrames s.config.framePerPacket space s.queues.writeBuffer
        return { s with
          queues := { s.queues with writeBuffer := w.writeBuffer }
          outgoing := s.outgoing.pass w.frames
          packets := s.packets ++ [w.frames] }
  | .handleDatagram datagram => do
      let (readBuffer, outcome) ← s.queues.handleDatagram s.config.recvDropOldDataFirst datagram
      return { s with
        queues := { s.queues with readBuffer }
        received := s.received ++ [datagram]
        incoming := s.incoming.enter datagram outcome }
  | .readDatagrams atMost =>
      if s.isOpen then
        let retDatagrams := s.queues.readBuffer.take (s.queues.readAtMost atMost)
        .ok { s with
          queues := { s.queues with
            readBuffer := s.queues.readBuffer.drop (s.queues.readAtMost atMost) }
          incoming := s.incoming.pass retDatagrams
          delivered := s.delivered ++ retDatagrams }
      else .ok s
  | .close => .ok { s with isOpen := false }

/-- What becomes of datagrams. The ones that went on their way from the write buffer are the
ones in the packets, and the ones from the read buffer were delivered. -/
structure Conserved (s : DatagramSocket) : Prop where
  outgoing : s.outgoing.Queued s.queues.writeBuffer s.queues.maxWriteBufferSize
    s.config.sendDropOldDataFirst
  written : s.packets.flatten = s.outgoing.passed
  incoming : s.incoming.Queued s.queues.readBuffer s.queues.maxReadBufferSize
    s.config.recvDropOldDataFirst
  stored : s.incoming.entered.Sublist s.received
  delivered : s.delivered = s.incoming.passed

/-- A buffer that drops its oldest datagram can hold one. -/
def HasRoom (s : DatagramSocket) : Prop :=
  (s.config.sendDropOldDataFirst = true → s.queues.maxWriteFrameSize ≠ 0 →
    0 < s.queues.maxWriteBufferSize) ∧
  (s.config.recvDropOldDataFirst = true → s.queues.maxReadFrameSize ≠ 0 →
    0 < s.queues.maxReadBufferSize)

theorem Conserved.step {s : DatagramSocket} (h : s.Conserved) (hroom : s.HasRoom)
    (e : DatagramEvent) :
    Ends DatagramFault.IsException (s.step e) (fun t => t.Conserved ∧ t.HasRoom) := by
  cases e with
  | writeDatagram buf =>
    rw [DatagramSocket.step]
    refine (h.outgoing.enqueue hroom.1 buf).bind fun r hr => .ok ⟨?_, hroom⟩
    exact ⟨hr, h.written.trans (Passage.passed_enter _ _ _).symm, h.incoming, h.stored,
      h.delivered⟩
  | buildPacket space =>
    rw [DatagramSocket.step]
    refine Ends.ite (fun _ => .ok ⟨h, hroom⟩) fun hpending => ?_
    have hloop : Ends DatagramFault.IsException
        (writeDatagramFrames s.config.framePerPacket space s.queues.writeBuffer)
        (DatagramWrite.Moved ⟨space, s.queues.writeBuffer, []⟩) :=
      writeDatagramLoop_ends _ _ 0 (fun _ hnil => hpending (List.isEmpty_iff.mpr hnil))
        fun q _ => datagramFrameLength_ends q.chainLength
    refine hloop.bind fun w hw => .ok ⟨?_, hroom⟩
    obtain ⟨moved, hframes, hbuffer⟩ := hw
    obtain rfl : w.frames = moved := hframes
    have hqueued := h.outgoing
    rw [show s.queues.writeBuffer = w.frames ++ w.writeBuffer from hbuffer] at hqueued
    refine ⟨hqueued.pass, ?_, h.incoming, h.stored, h.delivered⟩
    change (s.packets ++ [w.frames]).flatten = (s.outgoing.pass w.frames).passed
    rw [Passage.passed_pass, ← h.written, List.flatten_append, List.flatten_singleton]
  | handleDatagram datagram =>
    rw [DatagramSocket.step]
    refine ((h.incoming.enqueue hroom.2 datagram).with_eq).bind fun r hr => .ok ⟨?_, hroom⟩
    refine ⟨h.outgoing, h.written, hr.2, ?_,
      h.delivered.trans (Passage.passed_enter _ _ _).symm⟩
    change (s.incoming.enter datagram r.2).entered.Sublist (s.received ++ [datagram])
    cases r.2 with
    | refused => exact h.stored.trans (List.sublist_append_left _ _)
    | queued dropped => exact h.stored.append_right [datagram]
  | readDatagrams atMost =>
    rw [DatagramSocket.step]
    refine Ends.ite (fun _ => .ok ⟨?_, hroom⟩) fun _ => .ok ⟨h, hroom⟩
    have hqueued := h.incoming
    rw [← List.take_append_drop (s.queues.readAtMost atMost) s.queues.readBuffer] at hqueued
    refine ⟨h.outgoing, h.written, hqueued.pass, h.stored, ?_⟩
    change s.delivered ++ _ = (s.incoming.pass _).passed
    rw [Passage.passed_pass, h.delivered]
  | close => exact .ok ⟨⟨h.outgoing, h.written, h.incoming, h.stored, h.delivered⟩, hroom⟩

theorem conserved_start (config : DatagramConfig) (maxReadFrameSize maxWriteFrameSize
    maxReadBufferSize maxWriteBufferSize : Nat) :
    (start config maxReadFrameSize maxWriteFrameSize maxReadBufferSize
      maxWriteBufferSize).Conserved := by
  refine ⟨⟨rfl, ?_, Nat.zero_le _⟩, rfl, ⟨rfl, ?_, Nat.zero_le _⟩, .slnil, rfl⟩
  · rintro ⟨d, hd, -⟩
    exact absurd hd List.not_mem_nil
  · rintro ⟨d, hd, -⟩
    exact absurd hd List.not_mem_nil

/-- A full buffer without room for one datagram drops the oldest of none. -/
theorem enqueueDatagram_empty {α : Type} {maxFrameSize : Nat} (hframe : maxFrameSize ≠ 0)
    (datagram : α) :
    enqueueDatagram maxFrameSize 0 true [] datagram = .error .emptyQueue := by
  unfold enqueueDatagram
  rw [if_neg hframe]
  rfl

end DatagramSocket

/-- Datagrams are conserved in every run exactly when each buffer that drops its oldest
datagram can hold one. -/
theorem datagrams_conserved_iff (config : DatagramConfig) (maxReadFrameSize maxWriteFrameSize
    maxReadBufferSize maxWriteBufferSize : Nat) :
    (∀ events : List DatagramEvent, Ends DatagramFault.IsException
      (events.foldlM DatagramSocket.step (.start config maxReadFrameSize maxWriteFrameSize
        maxReadBufferSize maxWriteBufferSize))
      (fun s => s.Conserved ∧ s.packets.flatten.Sublist s.outgoing.entered ∧
        s.delivered.Sublist s.received)) ↔
    (config.sendDropOldDataFirst = true → maxWriteFrameSize ≠ 0 → 0 < maxWriteBufferSize) ∧
    (config.recvDropOldDataFirst = true → maxReadFrameSize ≠ 0 → 0 < maxReadBufferSize) := by
  constructor
  · intro hall
    refine ⟨fun hdrop hframe => ?_, fun hdrop hframe => ?_⟩
    · rw [Nat.pos_iff_ne_zero]
      rintro rfl
      have hrun := hall [.writeDatagram .cleared]
      have herror := DatagramSocket.enqueueDatagram_empty hframe BufQueue.cleared
      simp only [List.foldlM_cons, DatagramSocket.step, DatagramQueues.writeDatagram,
        DatagramSocket.start, hdrop, herror] at hrun
      exact hrun
    · rw [Nat.pos_iff_ne_zero]
      rintro rfl
      have hrun := hall [.handleDatagram ⟨0, .cleared⟩]
      have herror := DatagramSocket.enqueueDatagram_empty hframe (⟨0, .cleared⟩ : ReadDatagram)
      simp only [List.foldlM_cons, DatagramSocket.step, DatagramQueues.handleDatagram,
        DatagramSocket.start, hdrop, herror] at hrun
      exact hrun
  · intro hroom events
    have hrun : Ends DatagramFault.IsException
        (events.foldlM DatagramSocket.step (.start config maxReadFrameSize maxWriteFrameSize
          maxReadBufferSize maxWriteBufferSize)) (fun s => s.Conserved ∧ s.HasRoom) :=
      Ends.foldlM (I := fun (s : DatagramSocket) _ => s.Conserved ∧ s.HasRoom)
        (fun s e _ hs => hs.1.step hs.2 e) ⟨DatagramSocket.conserved_start _ _ _ _ _, hroom⟩
    refine hrun.imp fun s hs => ⟨hs.1, ?_, ?_⟩
    · rw [hs.1.written]
      exact hs.1.outgoing.passed_sublist
    · rw [hs.1.delivered]
      exact hs.1.incoming.passed_sublist.trans hs.1.stored

/-- With a write buffer for no datagrams that drops the oldest one, the first datagram is
taken from an empty queue. -/
theorem datagrams_conserved_fails :
    [DatagramEvent.writeDatagram .cleared].foldlM DatagramSocket.step
      (.start ⟨true, false, true⟩ 65535 65535 75 0) = .error .emptyQueue :=
  rfl

end MasqueQuic
