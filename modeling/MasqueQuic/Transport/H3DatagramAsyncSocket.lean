/-
`H3DatagramAsyncSocket` (`lib/transport/H3DatagramAsyncSocket.h`, `.cpp`): a UDP
socket whose datagrams travel over HTTP/3 transactions.

The pointer to the read callback lives in three places. `readCallback_` belongs to
the base class and is cleared by `pauseRead`; `defaultReadCallback_` keeps the
callback of a `resumeRead` that comes before the connection; each transaction
handler has its own `readCallback`, and only that one decides whether a datagram
is delivered or buffered. The translation keeps the three apart.

A callback is known by a name, by the length of the buffer that `getReadBuffer`
hands out (0 also stands for a null buffer) and by whether it listens to bodies.
What a handler calls is kept in order in `calls`. The session numbers its
transactions from `nextStreamID` on, in steps of four.
-/

import MasqueQuic.Folly.IOBuf

namespace MasqueQuic

/-- `AsyncUDPSocket::ReadCallback`. -/
structure ReadCallback where
  name : Nat
  bufferLen : Nat
  isBodyListener : Bool
  deriving DecidableEq

/-- A call out of a transaction handler. -/
inductive HandlerCall where
  | onDataAvailable (callback : ReadCallback) (payload : Bytes)
  | onBody (callback : ReadCallback) (body : Bytes)
  | onReadError (callback : ReadCallback)
  | onReadClosed (callback : ReadCallback)
  | sendDatagram (datagram : Bytes)
  deriving DecidableEq

/-! ### Transaction handlers -/

structure TransactionHandler where
  writeBuf : List IOBuf
  readBuf : List IOBuf
  bodyBuf : List IOBuf
  readCallback : Option ReadCallback
  calls : List HandlerCall
  deriving DecidableEq

namespace TransactionHandler

/-- A new handler. -/
def new : TransactionHandler := ⟨[], [], [], none, []⟩

def call (h : TransactionHandler) (c : HandlerCall) : TransactionHandler :=
  { h with calls := h.calls ++ [c] }

def deliverDatagram (h : TransactionHandler) (datagram : IOBuf) :
    Except Fault TransactionHandler :=
  match h.readCallback with
  | none => .error .check
  | some callback =>
      if callback.bufferLen = 0 ∨ callback.bufferLen < datagram.computeChainDataLength then .ok h
      else .ok (h.call (.onDataAvailable callback datagram.bytes))

/-- The bodies buffered so far go to a callback that listens to them. -/
def deliverBodies (h : TransactionHandler) : TransactionHandler :=
  match h.readCallback with
  | some callback =>
      if callback.isBodyListener then
        { h with
          bodyBuf := []
          calls := h.calls ++ h.bodyBuf.map fun body => .onBody callback body.bytes }
      else { h with bodyBuf := [] }
  | none => { h with bodyBuf := [] }

/-- The datagrams buffered so far go to the callback. -/
def deliverDatagrams (h : TransactionHandler) : Except Fault TransactionHandler := do
  let h ← h.readBuf.foldlM deliverDatagram h
  return { h with readBuf := [] }

def setReadCallback (h : TransactionHandler) (readCallback : Option ReadCallback) :
    Except Fault TransactionHandler :=
  { h with readCallback := readCallback }.deliverBodies.deliverDatagrams

def pauseRead (h : TransactionHandler) : TransactionHandler := { h with readCallback := none }

def closeRead (h : TransactionHandler) : TransactionHandler :=
  match h.readCallback with
  | some callback => { h with readCallback := none }.call (.onReadClosed callback)
  | none => h

/-- The callback is called without a check. -/
def closeWithError (h : TransactionHandler) : Except Fault TransactionHandler :=
  match h.readCallback with
  | some callback => .ok (h.call (.onReadError callback)).closeRead
  | none => .error .nullCallback

/-- The buffered datagrams go out with the 200 answer. -/
def onHeadersComplete (h : TransactionHandler) (statusCode : Nat) : TransactionHandler :=
  if statusCode = 200 then
    { h with
      writeBuf := []
      calls := h.calls ++ h.writeBuf.map fun datagram => .sendDatagram datagram.bytes }
  else h

def onDatagram (h : TransactionHandler) (rcvBufPkts : Nat) (datagram : IOBuf) :
    Except Fault TransactionHandler :=
  match h.readCallback with
  | none =>
      if h.readBuf.length < rcvBufPkts then .ok { h with readBuf := h.readBuf ++ [datagram] }
      else .ok h
  | some _ => h.deliverDatagram datagram

def onBody (h : TransactionHandler) (body : IOBuf) : TransactionHandler :=
  match h.readCallback with
  | none => { h with bodyBuf := h.bodyBuf ++ [body] }
  | some callback =>
      if callback.isBodyListener then h.call (.onBody callback body.bytes) else h

def onEOM (h : TransactionHandler) : TransactionHandler := h.closeRead

def onUpgrade (h : TransactionHandler) : Except Fault TransactionHandler := h.closeWithError

def onError (h : TransactionHandler) : Except Fault TransactionHandler := h.closeWithError

end TransactionHandler

/-! ### The socket -/

structure H3DatagramAsyncSocket where
  readCallback_ : Option ReadCallback
  defaultReadCallback_ : Option ReadCallback
  defaultStreamId_ : Option Nat
  transactions_ : Nat → Option TransactionHandler
  writeBuf : List IOBuf
  transportConnected_ : Bool
  rcvBufPkts_ : Nat
  nextStreamID : Nat

namespace H3DatagramAsyncSocket

/-- A new socket, with room for `rcvBufPkts` datagrams. -/
def new (rcvBufPkts : Nat) : H3DatagramAsyncSocket where
  readCallback_ := none
  defaultReadCallback_ := none
  defaultStreamId_ := none
  transactions_ := fun _ => none
  writeBuf := []
  transportConnected_ := false
  rcvBufPkts_ := rcvBufPkts
  nextStreamID := 0

def setHandler (s : H3DatagramAsyncSocket) (streamID : Nat) (handler : TransactionHandler) :
    H3DatagramAsyncSocket :=
  { s with transactions_ := Function.update s.transactions_ streamID (some handler) }

/-- Let the handler of a stream do something; without one nothing happens. -/
def withHandler (s : H3DatagramAsyncSocket) (streamID : Nat)
    (f : TransactionHandler → Except Fault TransactionHandler) :
    Except Fault H3DatagramAsyncSocket :=
  match s.transactions_ streamID with
  | none => .ok s
  | some handler => do
      let handler ← f handler
      return s.setHandler streamID handler

/-- The handler of a new transaction; the first one takes the default callback. -/
def newHandler (s : H3DatagramAsyncSocket) (first : Bool) : Except Fault TransactionHandler :=
  if first && s.defaultReadCallback_.isSome then
    TransactionHandler.new.setReadCallback s.defaultReadCallback_
  else .ok .new

/-- Enter a transaction into the map. The first one ever becomes the default stream
and takes over what was written so far. -/
def addTransaction (s : H3DatagramAsyncSocket) (streamID : Nat) (handler : TransactionHandler) :
    H3DatagramAsyncSocket :=
  match s.defaultStreamId_ with
  | none =>
      { s with defaultStreamId_ := some streamID, writeBuf := [] }.setHandler streamID
        { handler with writeBuf := s.writeBuf }
  | some _ => s.setHandler streamID handler

/-- The loop of `connectSuccess`, over whether each transaction can send headers.
The flag says that the loop ran to its end. -/
def createTransactions (first : Bool) :
    List Bool → H3DatagramAsyncSocket → Except Fault (Bool × H3DatagramAsyncSocket)
  | [], s => return (true, s)
  | canSendHeaders :: rest, s =>
      let streamID := s.nextStreamID
      let s := { s with nextStreamID := streamID + 4 }
      if canSendHeaders then do
        let handler ← s.newHandler first
        createTransactions false rest (s.addTransaction streamID handler)
      else return (false, s)

/-- `connectSuccess`; `ready` says that there is a request and a session. -/
def connectSuccess (s : H3DatagramAsyncSocket) (ready : Bool) (canSendHeaders : List Bool) :
    Except Fault H3DatagramAsyncSocket :=
  if ready then do
    let (complete, s) ← createTransactions true canSendHeaders s
    return if complete then { s with transportConnected_ := true } else s
  else .ok s

/-- `resumeRead(streamID, cob)`. -/
def resumeReadOn (s : H3DatagramAsyncSocket) (streamID : Nat) (cob : Option ReadCallback) :
    Except Fault H3DatagramAsyncSocket :=
  s.withHandler streamID fun handler => handler.setReadCallback cob

/-- `resumeRead(cob)`. -/
def resumeRead (s : H3DatagramAsyncSocket) (cob : Option ReadCallback) :
    Except Fault H3DatagramAsyncSocket :=
  match s.defaultStreamId_ with
  | none =>
      match s.defaultReadCallback_ with
      | some _ => .ok s
      | none => .ok { s with defaultReadCallback_ := cob }
  | some streamID => s.resumeReadOn streamID cob

def pauseRead (s : H3DatagramAsyncSocket) : H3DatagramAsyncSocket := { s with readCallback_ := none }

/-! ### Writing -/

/-- The `errno` of a write that returns -1. -/
inductive Errno where
  | EINVAL
  | ENOTCONN
  | ENOBUFS
  | ECANCELED
  | EMSGSIZE
  deriving DecidableEq

/-- What a write finds around the socket: whether `connectAddress_` is initialised,
`getDatagramSizeLimit()` and the answer of `sendDatagram`. -/
structure WriteEnv where
  isInitialized : Bool
  getDatagramSizeLimit : Nat
  sendDatagram : Bool
  deriving DecidableEq

/-- What a write returns: the size, or -1 with the `errno` that it sets, if any. -/
abbrev WriteResult := Except (Option Errno) Nat

/-- `write(streamID, address, buf)`. -/
def writeOn (s : H3DatagramAsyncSocket) (sndBufPkts : Nat) (env : WriteEnv) (streamID : Nat)
    (buf : Option IOBuf) : H3DatagramAsyncSocket × WriteResult :=
  match buf with
  | none => (s, .error (some .EINVAL))
  | some buf =>
      if !env.isInitialized then (s, .error (some .ENOTCONN))
      else
        let size := buf.computeChainDataLength
        match s.transactions_ streamID with
        | none => (s, .error none)
        | some handler =>
            if !s.transportConnected_ then
              if handler.writeBuf.length < sndBufPkts then
                (s.setHandler streamID { handler with writeBuf := handler.writeBuf ++ [buf.clone] },
                  .ok size)
              else (s, .error (some .ENOBUFS))
            else if (s.transactions_ streamID).isNone then (s, .error (some .ECANCELED))
            else if env.getDatagramSizeLimit < size then (s, .error (some .EMSGSIZE))
            else
              -- The transaction has the datagram now, whatever it answers.
              let s := s.setHandler streamID (handler.call (.sendDatagram buf.clone.bytes))
              if env.sendDatagram then (s, .ok size) else (s, .error (some .ENOBUFS))

/-- `write(address, buf)`. Before there is a default stream the socket buffers. -/
def write (s : H3DatagramAsyncSocket) (sndBufPkts : Nat) (env : WriteEnv) (buf : IOBuf) :
    H3DatagramAsyncSocket × WriteResult :=
  match s.defaultStreamId_ with
  | none =>
      if s.writeBuf.length < sndBufPkts then
        ({ s with writeBuf := s.writeBuf ++ [buf.clone] }, .ok buf.computeChainDataLength)
      else (s, .error none)
  | some streamID => s.writeOn sndBufPkts env streamID (some buf)

end H3DatagramAsyncSocket

end MasqueQuic
