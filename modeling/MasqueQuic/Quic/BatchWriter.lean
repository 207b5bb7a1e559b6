/-
The batch writers (`quic/api/QuicBatchWriter.cpp`) and the batch in front of them
(`quic/api/IoBufQuicBatch.cpp`).

A writer collects packets until they are handed to a socket together. `IOBufQuicBatch` decides when:
before a packet that may not join, behind one that completes the batch, and when it is told to. Writes
to sockets do not fail here, so the sockets that are active stay the same. The in-place writer finds its
packets in the buffer of the connection, which is one piece of memory that starts at its data; the
packet builder has put the packet there before `write` is called.

The histories are the batches that each socket was handed, the packets that were written and those
among them that wait in the writer, each with the address it was written for.
-/

import MasqueQuic.Lib.BigEndian
import MasqueQuic.Lib.Pieces

namespace MasqueQuic

variable {Address : Type}

/-- What a socket sends: an address and the bytes. -/
abbrev Datagram (Address : Type) := Address × Bytes

/-- The assertions. -/
inductive BatchCheck where
  | gsoSize         -- `CHECK_LT(size, prevSize_)`
  | needsFlush      -- `CHECK(!needsFlush(size))`
  | firstPacket     -- `CHECK(prevSize_ == 0 && numPackets_ == 0)`
  | prevSize        -- `CHECK(prevSize_ && prevSize_ >= size)`
  | lastPacketEnd   -- `CHECK(lastPacketEnd_)`
  | bounds          -- `CHECK(lastPacketEnd_ >= buf->data() && lastPacketEnd_ <= buf->tail())`
  | diffToEnd       -- `CHECK(diffToEnd <= conn_.udpSendPacketLen || ..)`
  | room            -- `CHECK_LT(bufs_.size(), maxBufs_)`
  | bufs            -- `CHECK_GT(bufs_.size(), 0)`
  deriving DecidableEq

/-! ### Sockets -/

namespace AsyncUDPSocket

/-- A chain of buffers in one datagram. -/
def write (address : Address) (buf : List Bytes) : List (Datagram Address) :=
  [(address, buf.flatten)]

/-- A chain of buffers, cut into datagrams of `gso` bytes. -/
def writeGSO (address : Address) (buf : List Bytes) (gso : Nat) : List (Datagram Address) :=
  (Pieces.cut gso buf.flatten).map fun piece => (address, piece)

def writem (address : Address) (bufs : List Bytes) : List (Datagram Address) :=
  bufs.map fun buf => (address, buf)

end AsyncUDPSocket

/-! ### One packet -/

structure SinglePacketBatchWriter where
  buf : Option Bytes
  deriving DecidableEq

namespace SinglePacketBatchWriter

def reset (_ : SinglePacketBatchWriter) : SinglePacketBatchWriter := ⟨none⟩

def append (_ : SinglePacketBatchWriter) (buf : Bytes) : SinglePacketBatchWriter × Bool :=
  (⟨some buf⟩, true)

def write (w : SinglePacketBatchWriter) (address : Address) : List (Datagram Address) :=
  AsyncUDPSocket.write address w.buf.toList

end SinglePacketBatchWriter

/-! ### A chain of packets -/

structure GSOPacketBatchWriter where
  maxBufs : Nat
  buf : List Bytes
  currBufs : Nat
  prevSize : Nat
  deriving DecidableEq

namespace GSOPacketBatchWriter

def reset (w : GSOPacketBatchWriter) : GSOPacketBatchWriter := ⟨w.maxBufs, [], 0, 0⟩

def needsFlush (w : GSOPacketBatchWriter) (size : Nat) : Bool :=
  w.prevSize != 0 && decide (size > w.prevSize)

def append (w : GSOPacketBatchWriter) (buf : Bytes) (size : Nat) :
    Except BatchCheck (GSOPacketBatchWriter × Bool) :=
  if w.buf.isEmpty then .ok ({ w with buf := [buf], prevSize := size, currBufs := 1 }, false)
  else
    let w := { w with buf := w.buf ++ [buf], currBufs := w.currBufs + 1 }
    if size ≠ w.prevSize then
      if size < w.prevSize then .ok (w, true) else .error .gsoSize
    else .ok (w, w.currBufs == w.maxBufs)

def write (w : GSOPacketBatchWriter) (address : Address) : List (Datagram Address) :=
  if w.currBufs > 1 then AsyncUDPSocket.writeGSO address w.buf w.prevSize
  else AsyncUDPSocket.write address w.buf

end GSOPacketBatchWriter

/-! ### Packets in the buffer of the connection -/

/-- `buf` are the bytes in the connection's buffer, and `lastPacketEnd` is a position in it. -/
structure GSOInplacePacketBatchWriter where
  maxPackets : Nat
  udpSendPacketLen : Nat
  buf : Bytes
  lastPacketEnd : Option Nat
  prevSize : Nat
  numPackets : Nat
  nextPacketSize : Nat
  deriving DecidableEq

namespace GSOInplacePacketBatchWriter

def reset (w : GSOInplacePacketBatchWriter) : GSOInplacePacketBatchWriter :=
  { w with lastPacketEnd := none, prevSize := 0, numPackets := 0, nextPacketSize := 0 }

def needsFlush (w : GSOInplacePacketBatchWriter) (size : Nat) : GSOInplacePacketBatchWriter × Bool :=
  let shouldFlush := w.prevSize != 0 && decide (size > w.prevSize)
  (if shouldFlush then { w with nextPacketSize := size } else w, shouldFlush)

def append (w : GSOInplacePacketBatchWriter) (size : Nat) :
    Except BatchCheck (GSOInplacePacketBatchWriter × Bool) :=
  if (w.needsFlush size).2 then .error .needsFlush
  else
    match w.lastPacketEnd with
    | none =>
        if w.prevSize = 0 ∧ w.numPackets = 0 then
          .ok ({ w with
            prevSize := size
            lastPacketEnd := some w.buf.length
            numPackets := 1 }, false)
        else .error .firstPacket
    | some _ =>
        if w.prevSize ≠ 0 ∧ w.prevSize ≥ size then
          let w := { w with
            numPackets := w.numPackets + 1
            lastPacketEnd := some w.buf.length }
          .ok (w, decide (w.prevSize > size) || w.numPackets == w.maxPackets)
        else .error .prevSize

/-- What lies behind the last packet is moved to the beginning of the buffer. -/
def write (w : GSOInplacePacketBatchWriter) (address : Address) :
    Except BatchCheck (GSOInplacePacketBatchWriter × List (Datagram Address)) :=
  match w.lastPacketEnd with
  | none => .error .lastPacketEnd
  | some lastPacketEnd =>
      let diffToEnd := w.buf.length - lastPacketEnd
      if w.buf.length < lastPacketEnd then .error .bounds
      else if diffToEnd ≤ w.udpSendPacketLen ∨
          w.nextPacketSize ≠ 0 ∧ diffToEnd = w.nextPacketSize then
        let buf := w.buf.take lastPacketEnd
        .ok ({ w with buf := w.buf.drop lastPacketEnd }.reset,
          if w.numPackets > 1 then AsyncUDPSocket.writeGSO address [buf] w.prevSize
          else AsyncUDPSocket.write address [buf])
      else .error .diffToEnd

end GSOInplacePacketBatchWriter

/-! ### A list of packets -/

structure SendmmsgPacketBatchWriter where
  maxBufs : Nat
  bufs : List Bytes
  currSize : Nat
  deriving DecidableEq

namespace SendmmsgPacketBatchWriter

def reset (w : SendmmsgPacketBatchWriter) : SendmmsgPacketBatchWriter := ⟨w.maxBufs, [], 0⟩

def append (w : SendmmsgPacketBatchWriter) (buf : Bytes) (size : Nat) :
    Except BatchCheck (SendmmsgPacketBatchWriter × Bool) :=
  if w.bufs.length < w.maxBufs then
    let w := { w with bufs := w.bufs ++ [buf], currSize := w.currSize + size }
    .ok (w, w.bufs.length == w.maxBufs)
  else .error .room

def write (w : SendmmsgPacketBatchWriter) (address : Address) :
    Except BatchCheck (List (Datagram Address)) :=
  match w.bufs with
  | [] => .error .bufs
  | [buf] => .ok (AsyncUDPSocket.write address [buf])
  | bufs => .ok (AsyncUDPSocket.writem address bufs)

end SendmmsgPacketBatchWriter

/-! ### A list of chains -/

/-- The entries of `bufs_`, `gso_`, `prevSize_` and `addrs_` at one index. -/
structure GSOChain (Address : Type) where
  addr : Address
  buf : List Bytes
  gso : Nat
  prevSize : Nat

namespace GSOChain

/-- Whether a packet may be appended to the chain. -/
def takes (c : GSOChain Address) (size : Nat) : Bool :=
  decide (size ≤ c.prevSize) && (c.gso == 0 || c.gso == c.prevSize)

def append (c : GSOChain Address) (buf : Bytes) (size : Nat) : GSOChain Address :=
  { c with gso := c.prevSize, prevSize := size, buf := c.buf ++ [buf] }

/-- One message of `writemGSO`. Without a segment size the chain is one datagram. -/
def send (c : GSOChain Address) : List (Datagram Address) :=
  if c.gso = 0 then AsyncUDPSocket.write c.addr c.buf
  else AsyncUDPSocket.writeGSO c.addr c.buf c.gso

end GSOChain

structure SendmmsgGSOPacketBatchWriter (Address : Type) where
  maxBufs : Nat
  chains : List (GSOChain Address)
  addrMap : Address → Option Nat
  currBufs : Nat
  currSize : Nat

namespace SendmmsgGSOPacketBatchWriter

def reset (w : SendmmsgGSOPacketBatchWriter Address) : SendmmsgGSOPacketBatchWriter Address :=
  ⟨w.maxBufs, [], fun _ => none, 0, 0⟩

/-- The chain of an address, if the packet may be appended to it. -/
def joins (w : SendmmsgGSOPacketBatchWriter Address) (size : Nat) (addr : Address) : Option Nat :=
  (w.addrMap addr).filter fun idx => w.chains[idx]?.any (·.takes size)

def append [DecidableEq Address] (w : SendmmsgGSOPacketBatchWriter Address) (buf : Bytes) (size : Nat)
    (addr : Address) : SendmmsgGSOPacketBatchWriter Address × Bool :=
  let flush := w.currBufs + 1 == w.maxBufs
  match w.joins size addr with
  | some idx =>
      ({ w with
        currSize := w.currSize + size
        chains := w.chains.modify idx (·.append buf size)
        currBufs := w.currBufs + 1 }, flush)
  | none =>
      ({ w with
        currSize := w.currSize + size
        chains := w.chains ++ [⟨addr, [buf], 0, size⟩]
        addrMap := Function.update w.addrMap addr (some w.chains.length)
        currBufs := w.currBufs + 1 }, flush)

/-- The address that is passed is not used. -/
def write (w : SendmmsgGSOPacketBatchWriter Address) : Except BatchCheck (List (Datagram Address)) :=
  match w.chains with
  | [] => .error .bufs
  | [c] =>
      .ok (if w.currBufs > 1 then AsyncUDPSocket.writeGSO c.addr c.buf c.gso
        else AsyncUDPSocket.write c.addr c.buf)
  | chains => .ok (chains.flatMap GSOChain.send)

end SendmmsgGSOPacketBatchWriter

/-! ### Any writer -/

inductive BatchWriter (Address : Type) where
  | single (w : SinglePacketBatchWriter)
  | gso (w : GSOPacketBatchWriter)
  | gsoInplace (w : GSOInplacePacketBatchWriter)
  | sendmmsg (w : SendmmsgPacketBatchWriter)
  | sendmmsgGSO (w : SendmmsgGSOPacketBatchWriter Address)

inductive BatchWriterKind where
  | single
  | gso
  | gsoInplace
  | sendmmsg
  | sendmmsgGSO
  deriving DecidableEq

namespace BatchWriter

def kind : BatchWriter Address → BatchWriterKind
  | .single _ => .single
  | .gso _ => .gso
  | .gsoInplace _ => .gsoInplace
  | .sendmmsg _ => .sendmmsg
  | .sendmmsgGSO _ => .sendmmsgGSO

/-- A packet is built. Only the in-place writer has it in its buffer then. -/
def build (packet : Bytes) : BatchWriter Address → BatchWriter Address
  | .gsoInplace w => .gsoInplace { w with buf := w.buf ++ packet }
  | w => w

def empty : BatchWriter Address → Bool
  | .single w => w.buf.isNone
  | .gso w => w.buf.isEmpty
  | .gsoInplace w => w.numPackets == 0
  | .sendmmsg w => w.currSize == 0
  | .sendmmsgGSO w => w.currSize == 0

def reset : BatchWriter Address → BatchWriter Address
  | .single w => .single w.reset
  | .gso w => .gso w.reset
  | .gsoInplace w => .gsoInplace w.reset
  | .sendmmsg w => .sendmmsg w.reset
  | .sendmmsgGSO w => .sendmmsgGSO w.reset

def needsFlush (size : Nat) : BatchWriter Address → BatchWriter Address × Bool
  | .gso w => (.gso w, w.needsFlush size)
  | .gsoInplace w => (.gsoInplace (w.needsFlush size).1, (w.needsFlush size).2)
  | w => (w, false)

def append [DecidableEq Address] (buf : Bytes) (size : Nat) (addr : Address) :
    BatchWriter Address → Except BatchCheck (BatchWriter Address × Bool)
  | .single w => .ok (.single (w.append buf).1, (w.append buf).2)
  | .gso w => do
      let (w, flush) ← w.append buf size
      return (.gso w, flush)
  | .gsoInplace w => do
      let (w, flush) ← w.append size
      return (.gsoInplace w, flush)
  | .sendmmsg w => do
      let (w, flush) ← w.append buf size
      return (.sendmmsg w, flush)
  | .sendmmsgGSO w => .ok (.sendmmsgGSO (w.append buf size addr).1, (w.append buf size addr).2)

/-- The writer afterwards and the datagrams. -/
def write (address : Address) :
    BatchWriter Address → Except BatchCheck (BatchWriter Address × List (Datagram Address))
  | .single w => .ok (.single w, w.write address)
  | .gso w => .ok (.gso w, w.write address)
  | .gsoInplace w => do
      let (w, datagrams) ← w.write address
      return (.gsoInplace w, datagrams)
  | .sendmmsg w => do
      let datagrams ← w.write address
      return (.sendmmsg w, datagrams)
  | .sendmmsgGSO w => do
      let datagrams ← w.write
      return (.sendmmsgGSO w, datagrams)

end BatchWriter

inductive QuicBatchingMode where
  | none
  | gso
  | sendmmsg
  | sendmmsgGSO
  deriving DecidableEq

inductive DataPathType where
  | chainedMemory
  | continuousMemory
  deriving DecidableEq

/-- Without the writer of the thread. -/
def makeBatchWriter (batchingMode : QuicBatchingMode) (batchSize : Nat) (dataPathType : DataPathType)
    (udpSendPacketLen : Nat) (gsoSupported : Bool) : BatchWriter Address :=
  match batchingMode with
  | .none => .single ⟨none⟩
  | .gso =>
      if gsoSupported then
        match dataPathType with
        | .chainedMemory => .gso ⟨batchSize, [], 0, 0⟩
        | .continuousMemory => .gsoInplace ⟨batchSize, udpSendPacketLen, [], none, 0, 0, 0⟩
      else .single ⟨none⟩
  | .sendmmsg => .sendmmsg ⟨batchSize, [], 0⟩
  | .sendmmsgGSO =>
      if gsoSupported then .sendmmsgGSO ⟨batchSize, [], fun _ => none, 0, 0⟩
      else .sendmmsg ⟨batchSize, [], 0⟩

/-! ### The batch -/

/-- One or both of the sockets are active. -/
structure HappyEyeballsState (Address : Type) where
  shouldWriteToFirstSocket : Bool
  shouldWriteToSecondSocket : Bool
  secondPeerAddress : Address
  active : shouldWriteToFirstSocket = true ∨ shouldWriteToSecondSocket = true

inductive FlushType where
  | always
  | allowThreadLocalDelay
  deriving DecidableEq

/-- `first` and `second` are the batches that the sockets were handed, `written` the packets that were
written, and `pending` those that wait in the writer. -/
structure IOBufQuicBatch (Address : Type) where
  batchWriter : BatchWriter Address
  threadLocal : Bool
  peerAddress : Address
  happyEyeballsState : Option (HappyEyeballsState Address)
  packetsSent : Nat
  bytesSent : Nat
  first : List (List (Datagram Address))
  second : List (List (Datagram Address))
  written : List (Datagram Address)
  pending : List (Datagram Address)

namespace IOBufQuicBatch

def new (batchWriter : BatchWriter Address) (threadLocal : Bool) (peerAddress : Address)
    (happyEyeballsState : Option (HappyEyeballsState Address)) : IOBufQuicBatch Address where
  batchWriter
  threadLocal
  peerAddress
  happyEyeballsState
  packetsSent := 0
  bytesSent := 0
  first := []
  second := []
  written := []
  pending := []

def writesToFirst (b : IOBufQuicBatch Address) : Bool :=
  match b.happyEyeballsState with
  | none => true
  | some state => state.shouldWriteToFirstSocket

/-- The address for the second socket, if that is active. -/
def secondAddress (b : IOBufQuicBatch Address) : Option Address :=
  match b.happyEyeballsState with
  | none => none
  | some state => if state.shouldWriteToSecondSocket then some state.secondPeerAddress else none

def writeFirst (b : IOBufQuicBatch Address) : Except BatchCheck (IOBufQuicBatch Address) := do
  if b.writesToFirst then
    let (batchWriter, datagrams) ← b.batchWriter.write b.peerAddress
    return { b with batchWriter, first := b.first ++ [datagrams] }
  else return b

def writeSecond (b : IOBufQuicBatch Address) : Except BatchCheck (IOBufQuicBatch Address) :=
  match b.secondAddress with
  | none => .ok b
  | some address => do
      let (batchWriter, datagrams) ← b.batchWriter.write address
      return { b with batchWriter, second := b.second ++ [datagrams] }

def flushInternal (b : IOBufQuicBatch Address) : Except BatchCheck (IOBufQuicBatch Address) := do
  if b.batchWriter.empty then return b
  else
    let b ← b.writeFirst
    b.writeSecond

def flush (b : IOBufQuicBatch Address) (flushType : FlushType) :
    Except BatchCheck (IOBufQuicBatch Address) := do
  if b.threadLocal && flushType == .allowThreadLocalDelay then return b
  else
    let b ← b.flushInternal
    return { b with batchWriter := b.batchWriter.reset, pending := [] }

section

variable [DecidableEq Address]

/-- The part of `write` behind the flush that a packet may need first. -/
def add (b : IOBufQuicBatch Address) (buf : Bytes) : Except BatchCheck (IOBufQuicBatch Address) := do
  let (batchWriter, full) ← b.batchWriter.append buf buf.length b.peerAddress
  let b := { b with
    batchWriter
    written := b.written ++ [(b.peerAddress, buf)]
    pending := b.pending ++ [(b.peerAddress, buf)] }
  if full then b.flush .always else return b

def write (b : IOBufQuicBatch Address) (buf : Bytes) : Except BatchCheck (IOBufQuicBatch Address) := do
  let (batchWriter, needsFlush) := (b.batchWriter.build buf).needsFlush buf.length
  let b := { b with
    batchWriter
    packetsSent := b.packetsSent + 1
    bytesSent := b.bytesSent + buf.length }
  let b ← (if needsFlush then b.flush .always else pure b)
  b.add buf

end

end IOBufQuicBatch

/-- `attach` is the batch of another connection that uses the same writer of the thread. Only
writers of the last kind are shared. -/
inductive BatchEvent (Address : Type) where
  | write (buf : Bytes)
  | flush (flushType : FlushType)
  | attach (peerAddress : Address)

namespace IOBufQuicBatch

def attach (b : IOBufQuicBatch Address) (peerAddress : Address) : IOBufQuicBatch Address :=
  if b.threadLocal && b.batchWriter.kind == .sendmmsgGSO then { b with peerAddress } else b

def step [DecidableEq Address] (b : IOBufQuicBatch Address) :
    BatchEvent Address → Except BatchCheck (IOBufQuicBatch Address)
  | .write buf => b.write buf
  | .flush flushType => b.flush flushType
  | .attach peerAddress => .ok (b.attach peerAddress)

end IOBufQuicBatch

end MasqueQuic
