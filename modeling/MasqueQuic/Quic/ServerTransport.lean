/-
The connections of one `QuicServerWorker`: the worker's maps, the counter of unfinished handshakes, and
what of each `QuicServerTransport` decides when they change.

Transports are numbers, in the order in which they are made. A function of a transport takes its number
and the world, since it calls the worker and is called back by the application. Which frames a datagram
holds, how far the handshake has come, which exceptions are thrown and what the application does in its
callbacks is part of the event (`ReadInput`, `CryptoInput`); what follows from it is computed. A `CHECK`
that fails is a `ServerFault`.
-/

import MasqueQuic.Lib.Ends
import MasqueQuic.Lib.Run

namespace MasqueQuic

inductive ServerFault where
  /-- `CHECK_GE(--globalUnfinishedHandshakes, 0)`. -/
  | unfinishedHandshakes
  /-- `CHECK(routingCb_)` in `maybeIssueConnectionIds`. -/
  | routingCallback
  /-- `CHECK(newServerConnIdData.has_value())` at the first Initial packet. -/
  | serverConnectionId
  /-- `CHECK(result.second)` in `makeTransport`. -/
  | sourceAddress
  deriving DecidableEq

/-! ### Transports -/

inductive ServerTransport.CloseState where
  | open
  | gracefulClosing
  | closed
  deriving DecidableEq

/-- The settings of a transport, and whether the application gives it a setup callback. -/
structure TransportSetup where
  shouldDrain : Bool
  disableMigration : Bool
  connSetupCallback : Bool

structure ServerTransport.ConnectionIdData (ι : Type) where
  connId : ι
  sequenceNumber : Nat

/-- `routingCb`, `handshakeFinishedCb` and `connSetupCallback` say whether the pointer is set;
`drainTimeout` whether it is scheduled. `source` is the original peer address with the destination ID
that the client chose. -/
structure ServerTransport (α ι : Type) where
  source : α × ι
  setup : TransportSetup
  closeState : ServerTransport.CloseState
  routingCb : Bool
  handshakeFinishedCb : Bool
  connSetupCallback : Bool
  drainTimeout : Bool
  isHandshakeDone : Bool
  hasWriteCipher : Bool
  hasReceivedPackets : Bool
  notifiedRouting : Bool
  notifiedConnIdBound : Bool
  handshakeDoneNotified : Bool
  transportReadyNotified : Bool
  serverConnectionId : Option ι
  selfConnectionIds : List (ServerTransport.ConnectionIdData ι)
  nextSelfConnectionIdSequence : Nat
  connIdsRetiringSoon : List ι
  peerActiveConnectionIdLimit : Nat

def kMaxActiveConnectionIdLimit : Nat := 5
def kConnIdEncodingRetryLimit : Nat := 32

namespace ServerTransport

variable {α ι : Type}

/-- A transport as `makeTransport` hands it on. -/
def new (source : α × ι) (setup : TransportSetup) : ServerTransport α ι where
  source := source
  setup := setup
  closeState := .open
  routingCb := true
  handshakeFinishedCb := true
  connSetupCallback := setup.connSetupCallback
  drainTimeout := false
  isHandshakeDone := false
  hasWriteCipher := false
  hasReceivedPackets := false
  notifiedRouting := false
  notifiedConnIdBound := false
  handshakeDoneNotified := false
  transportReadyNotified := false
  serverConnectionId := none
  selfConnectionIds := []
  nextSelfConnectionIdSequence := 0
  connIdsRetiringSoon := []
  peerActiveConnectionIdLimit := 0

/-- A place in the world where no transport has been made. -/
def absent (source : α × ι) : ServerTransport α ι :=
  { new source ⟨false, false, false⟩ with
    closeState := .closed, routingCb := false, handshakeFinishedCb := false }

def maximumConnectionIdsToIssue (transport : ServerTransport α ι) : Nat :=
  min transport.peerActiveConnectionIdLimit kMaxActiveConnectionIdLimit

/-- The condition of `maybeIssueConnectionIds`. -/
def issuesConnectionIds (transport : ServerTransport α ι) : Bool :=
  !transport.setup.disableMigration &&
    transport.selfConnectionIds.length < transport.maximumConnectionIdsToIssue &&
    transport.isHandshakeDone

/-- A RETIRE_CONNECTION_ID frame with a sequence number that is in use. -/
def retireConnectionId (transport : ServerTransport α ι) (sequenceNumber : Nat) :
    ServerTransport α ι :=
  match transport.selfConnectionIds.find? (·.sequenceNumber = sequenceNumber) with
  | none => transport
  | some data =>
      { transport with
        connIdsRetiringSoon := transport.connIdsRetiringSoon ++ [data.connId]
        selfConnectionIds := transport.selfConnectionIds.eraseP
          (·.sequenceNumber = sequenceNumber) }

end ServerTransport

/-! ### Events -/

/-- What the application may call. An error may forbid to drain (a reset, an abandoned connection, an
invalid migration), and a graceful close goes on at once where there are no streams. -/
inductive AppCall where
  | close (noDrain : Bool)
  | closeNow
  | closeGracefully (noStreams : Bool)

/-- A datagram, as `onServerReadData` takes it. `encoded` are the IDs that the algorithm encodes, one
after another, until it fails. An exception is given by whether its error forbids to drain; it comes
after what else is read. -/
structure ReadInput (ι : Type) where
  encoded : List ι
  startsConnection : Bool
  receivesPackets : Bool
  handshakeDone : Bool
  writeCipher : Bool
  peerActiveConnectionIdLimit : Nat
  retired : List Nat
  readException : Option Bool
  onFirstPeerPacketProcessed : List AppCall
  /-- Thrown by `onPTOAlarm` or while the session ticket is written. -/
  laterException : Option Bool
  onFullHandshakeDone : List AppCall
  onTransportReady : List AppCall
  peerConnectionError : Option Bool
  /-- The calls from the callbacks of `processCallbacksAfterNetworkData`. -/
  afterwards : List AppCall

/-- A crypto event, with the datagrams that have waited for it. -/
structure CryptoInput (ι : Type) where
  encoded : List ι
  handshakeDone : Bool
  writeCipher : Bool
  peerActiveConnectionIdLimit : Nat
  updateException : Option Bool
  pendingData : List (ReadInput ι)
  laterException : Option Bool
  onFullHandshakeDone : List AppCall
  writeException : Option Bool
  onTransportReady : List AppCall

/-- The frames of a datagram. -/
def ServerTransport.readFrames {α ι : Type} (input : ReadInput ι)
    (transport : ServerTransport α ι) : ServerTransport α ι :=
  { input.retired.foldl ServerTransport.retireConnectionId transport with
    hasReceivedPackets := transport.hasReceivedPackets || input.receivesPackets
    isHandshakeDone := transport.isHandshakeDone || input.handshakeDone
    hasWriteCipher := transport.hasWriteCipher || input.writeCipher
    peerActiveConnectionIdLimit := input.peerActiveConnectionIdLimit }

/-! ### The worker and its transports -/

/-- The maps are lists of their entries. `unbindings` is a history, which the code does not keep: each
transport as it was when it was unbound, the last one first. -/
structure WorkerWorld (α ι : Type) where
  connectionIdMap : List (ι × Nat)
  sourceAddressMap : List ((α × ι) × Nat)
  boundServerTransports : List Nat
  globalUnfinishedHandshakes : Int
  shutdown : Bool
  created : Nat
  transport : Nat → ServerTransport α ι
  unbindings : List (Nat × ServerTransport α ι)

/-- `emplace` of a map: an entry that is there stays. -/
def emplaceEntry {κ : Type} [DecidableEq κ] (key : κ) (t : Nat) (map : List (κ × Nat)) :
    List (κ × Nat) :=
  if key ∈ map.map (·.1) then map else (key, t) :: map

/-- `erase` of a map. -/
def eraseEntry {κ : Type} [DecidableEq κ] (key : κ) (map : List (κ × Nat)) : List (κ × Nat) :=
  map.filter (·.1 ≠ key)

/-- `find` of a map. -/
def findEntry {κ : Type} [DecidableEq κ] (key : κ) (map : List (κ × Nat)) : Option Nat :=
  (map.find? (·.1 = key)).map (·.2)

namespace WorkerWorld

variable {α ι : Type}

def modify (w : WorkerWorld α ι) (t : Nat) (f : ServerTransport α ι → ServerTransport α ι) :
    WorkerWorld α ι :=
  { w with transport := Function.update w.transport t (f (w.transport t)) }

section Modify

variable (w : WorkerWorld α ι) (t : Nat) (f : ServerTransport α ι → ServerTransport α ι)

@[simp] theorem transport_modify : (w.modify t f).transport t = f (w.transport t) :=
  Function.update_self ..

theorem transport_modify_of_ne {u : Nat} (h : u ≠ t) : (w.modify t f).transport u = w.transport u :=
  Function.update_of_ne h ..

@[simp] theorem connectionIdMap_modify : (w.modify t f).connectionIdMap = w.connectionIdMap := rfl

@[simp] theorem sourceAddressMap_modify : (w.modify t f).sourceAddressMap = w.sourceAddressMap :=
  rfl

@[simp] theorem boundServerTransports_modify :
    (w.modify t f).boundServerTransports = w.boundServerTransports := rfl

@[simp] theorem globalUnfinishedHandshakes_modify :
    (w.modify t f).globalUnfinishedHandshakes = w.globalUnfinishedHandshakes := rfl

@[simp] theorem created_modify : (w.modify t f).created = w.created := rfl

end Modify

variable [DecidableEq α] [DecidableEq ι]

/-! ### Callbacks into the worker -/

def onConnectionIdAvailable (t : Nat) (id : ι) (w : WorkerWorld α ι) : WorkerWorld α ι :=
  if id ∈ w.connectionIdMap.map (·.1) then w
  else
    { w with
      connectionIdMap := emplaceEntry id t w.connectionIdMap
      boundServerTransports :=
        if t ∈ w.boundServerTransports then w.boundServerTransports
        else t :: w.boundServerTransports }

def onConnectionIdRetired (id : ι) (w : WorkerWorld α ι) : WorkerWorld α ι :=
  { w with connectionIdMap := eraseEntry id w.connectionIdMap }

def onConnectionIdBound (t : Nat) (w : WorkerWorld α ι) : WorkerWorld α ι :=
  if findEntry (w.transport t).source w.sourceAddressMap = some t then
    { w with sourceAddressMap := eraseEntry (w.transport t).source w.sourceAddressMap }
  else w

/-- The entries are erased by their keys, whosever they are. -/
def onConnectionUnbound (t : Nat) (w : WorkerWorld α ι) : WorkerWorld α ι :=
  { w with
    boundServerTransports := w.boundServerTransports.filter (· ≠ t)
    connectionIdMap := (w.transport t).selfConnectionIds.foldl
      (fun map data => eraseEntry data.connId map) w.connectionIdMap
    sourceAddressMap := eraseEntry (w.transport t).source w.sourceAddressMap }

def onHandshakeFinished (w : WorkerWorld α ι) : Except ServerFault (WorkerWorld α ι) :=
  let unfinished := w.globalUnfinishedHandshakes - 1
  if unfinished ≥ 0 then .ok { w with globalUnfinishedHandshakes := unfinished }
  else .error .unfinishedHandshakes

def onHandshakeUnfinished (w : WorkerWorld α ι) : Except ServerFault (WorkerWorld α ι) :=
  let unfinished := w.globalUnfinishedHandshakes - 1
  if unfinished ≥ 0 then .ok { w with globalUnfinishedHandshakes := unfinished }
  else .error .unfinishedHandshakes

/-! ### Closing -/

def closeTransport (t : Nat) (w : WorkerWorld α ι) : Except ServerFault (WorkerWorld α ι) :=
  if (w.transport t).isHandshakeDone = false ∧ (w.transport t).handshakeFinishedCb = true then do
    let w ← w.onHandshakeUnfinished
    return w.modify t fun transport => { transport with handshakeFinishedCb := false }
  else .ok w

def unbindConnection (t : Nat) (w : WorkerWorld α ι) : WorkerWorld α ι :=
  if (w.transport t).routingCb then
    let w := { w with unbindings := (t, w.transport t) :: w.unbindings }
    let w := w.modify t fun transport => { transport with routingCb := false }
    if (w.transport t).serverConnectionId.isSome then w.onConnectionUnbound t else w
  else w

def drainTimeoutExpired (t : Nat) (w : WorkerWorld α ι) : WorkerWorld α ι := w.unbindConnection t

/-- The end of `closeImpl`. -/
def drainOrUnbind (t : Nat) (drainConnection noDrain : Bool) (w : WorkerWorld α ι) :
    WorkerWorld α ι :=
  if drainConnection && (w.transport t).setup.shouldDrain && !noDrain then
    w.modify t fun transport => { transport with drainTimeout := true }
  else w.drainTimeoutExpired t

/-- What the application calls from the callbacks of a close changes nothing: the transport is closed,
and nothing is scheduled yet. -/
def closeImpl (t : Nat) (drainConnection noDrain : Bool) (w : WorkerWorld α ι) :
    Except ServerFault (WorkerWorld α ι) :=
  if (w.transport t).closeState = .closed then .ok w
  else do
    let w ← (w.modify t fun transport => { transport with closeState := .closed }).closeTransport t
    let w := w.modify t fun transport => { transport with connSetupCallback := false }
    return w.drainOrUnbind t drainConnection noDrain

def close (t : Nat) (noDrain : Bool) (w : WorkerWorld α ι) :
    Except ServerFault (WorkerWorld α ι) :=
  (w.modify t fun transport => { transport with connSetupCallback := false }).closeImpl t true
    noDrain

def closeNow (t : Nat) (w : WorkerWorld α ι) : Except ServerFault (WorkerWorld α ι) := do
  let w ← w.closeImpl t false false
  if (w.transport t).drainTimeout then
    return (w.modify t fun transport => { transport with drainTimeout := false }).drainTimeoutExpired t
  else return w

def closeGracefully (t : Nat) (noStreams : Bool) (w : WorkerWorld α ι) :
    Except ServerFault (WorkerWorld α ι) :=
  if (w.transport t).closeState ≠ .open then .ok w
  else
    let w := w.modify t fun transport =>
      { transport with connSetupCallback := false, closeState := .gracefulClosing }
    if noStreams then w.closeImpl t true false else .ok w

def appCall (t : Nat) (w : WorkerWorld α ι) : AppCall → Except ServerFault (WorkerWorld α ι)
  | .close noDrain => w.close t noDrain
  | .closeNow => w.closeNow t
  | .closeGracefully noStreams => w.closeGracefully t noStreams

/-- What the application does in a callback. -/
def appCalls (t : Nat) (calls : List AppCall) (w : WorkerWorld α ι) :
    Except ServerFault (WorkerWorld α ι) :=
  calls.foldlM (appCall t) w

/-! ### Connection IDs -/

/-- The retries of `createAndAddNewSelfConnId`: the ID that is taken, and what is encoded next. -/
def encodeConnectionId (rejects : ι → Bool) : Nat → List ι → Option (ι × List ι)
  | _, [] => none
  | 0, id :: encoded => some (id, encoded)
  | retries + 1, id :: encoded =>
      if rejects id then encodeConnectionId rejects retries encoded else some (id, encoded)

/-- The worker rejects the IDs that it has a connection for. -/
def rejectConnectionId (w : WorkerWorld α ι) (candidate : ι) : Bool :=
  candidate ∈ w.connectionIdMap.map (·.1)

/-- The new ID, what is encoded next, and the world with the ID added. -/
def createAndAddNewSelfConnId (t : Nat) (encoded : List ι) (w : WorkerWorld α ι) :
    Option (ι × List ι × WorkerWorld α ι) :=
  (encodeConnectionId w.rejectConnectionId (kConnIdEncodingRetryLimit - 1) encoded).map fun r =>
    (r.1, r.2, w.modify t fun transport =>
      { transport with
        nextSelfConnectionIdSequence := transport.nextSelfConnectionIdSequence + 1
        selfConnectionIds := transport.selfConnectionIds ++
          [⟨r.1, transport.nextSelfConnectionIdSequence⟩] })

/-- The loop of `maybeIssueConnectionIds`, for `n` more IDs. -/
def issueConnectionIds (t : Nat) : Nat → List ι → WorkerWorld α ι →
    Except ServerFault (WorkerWorld α ι)
  | 0, _, w => .ok w
  | n + 1, encoded, w =>
      match w.createAndAddNewSelfConnId t encoded with
      | none => .ok w
      | some (connId, encoded, w) =>
          if (w.transport t).routingCb = false then .error .routingCallback
          else issueConnectionIds t n encoded (w.onConnectionIdAvailable t connId)

def maybeIssueConnectionIds (t : Nat) (encoded : List ι) (w : WorkerWorld α ι) :
    Except ServerFault (WorkerWorld α ι) :=
  if (w.transport t).issuesConnectionIds then
    w.issueConnectionIds t ((w.transport t).maximumConnectionIdsToIssue -
      (w.transport t).selfConnectionIds.length) encoded
  else .ok w

/-! ### Notifications -/

def maybeNotifyRouting (t : Nat) (w : WorkerWorld α ι) : WorkerWorld α ι :=
  match (w.transport t).serverConnectionId with
  | none => w
  | some id =>
      if (w.transport t).notifiedRouting = false ∧ (w.transport t).routingCb then
        (w.modify t fun transport =>
          { transport with notifiedRouting := true }).onConnectionIdAvailable t id
      else w

def maybeNotifyFirstPeerPacket (t : Nat) (waitingForFirstPacket : Bool) (calls : List AppCall)
    (w : WorkerWorld α ι) : Except ServerFault (WorkerWorld α ι) :=
  if (w.transport t).connSetupCallback ∧ waitingForFirstPacket ∧
      (w.transport t).hasReceivedPackets then w.appCalls t calls
  else .ok w

def maybeNotifyConnectionIdBound (t : Nat) (w : WorkerWorld α ι) : WorkerWorld α ι :=
  if (w.transport t).notifiedConnIdBound = false ∧ (w.transport t).routingCb ∧
      (w.transport t).serverConnectionId.isSome ∧ (w.transport t).isHandshakeDone then
    (w.modify t fun transport =>
      { transport with notifiedConnIdBound := true }).onConnectionIdBound t
  else w

/-- The first half of `maybeNotifyHandshakeFinished`. -/
def countHandshakeFinished (t : Nat) (w : WorkerWorld α ι) :
    Except ServerFault (WorkerWorld α ι) :=
  if (w.transport t).handshakeFinishedCb then do
    let w ← w.onHandshakeFinished
    return w.modify t fun transport => { transport with handshakeFinishedCb := false }
  else .ok w

def maybeNotifyHandshakeFinished (t : Nat) (calls : List AppCall) (w : WorkerWorld α ι) :
    Except ServerFault (WorkerWorld α ι) :=
  if (w.transport t).isHandshakeDone then do
    let w ← w.countHandshakeFinished t
    if (w.transport t).connSetupCallback ∧ (w.transport t).handshakeDoneNotified = false then do
      let w ← w.appCalls t calls
      return w.modify t fun transport => { transport with handshakeDoneNotified := true }
    else return w
  else .ok w

def maybeNotifyConnectionIdRetired (t : Nat) (w : WorkerWorld α ι) : WorkerWorld α ι :=
  if (w.transport t).setup.disableMigration = false ∧ (w.transport t).routingCb ∧
      (w.transport t).isHandshakeDone then
    ((w.transport t).connIdsRetiringSoon.foldl (fun w id => w.onConnectionIdRetired id) w).modify t
      fun transport => { transport with connIdsRetiringSoon := [] }
  else w

def maybeNotifyTransportReady (t : Nat) (calls : List AppCall) (w : WorkerWorld α ι) :
    Except ServerFault (WorkerWorld α ι) :=
  if (w.transport t).transportReadyNotified = false ∧ (w.transport t).connSetupCallback ∧
      (w.transport t).hasWriteCipher then
    (w.modify t fun transport => { transport with transportReadyNotified := true }).appCalls t calls
  else .ok w

/-! ### Reads and crypto events -/

/-- The ID that the server chooses at the first Initial packet. -/
def chooseServerConnectionId (t : Nat) (encoded : List ι) (w : WorkerWorld α ι) :
    Except ServerFault (List ι × WorkerWorld α ι) :=
  match w.createAndAddNewSelfConnId t encoded with
  | none => .error .serverConnectionId
  | some (connId, encoded, w) => .ok (encoded,
      w.modify t fun transport => { transport with serverConnectionId := some connId })

def startConnection (t : Nat) (input : ReadInput ι) (w : WorkerWorld α ι) :
    Except ServerFault (List ι × WorkerWorld α ι) :=
  if input.startsConnection ∧ (w.transport t).serverConnectionId = none then
    w.chooseServerConnectionId t input.encoded
  else .ok (input.encoded, w)

/-- A closed transport drops what it reads, and without an ID of the server no frame is read. -/
def onServerReadData (t : Nat) (input : ReadInput ι) (w : WorkerWorld α ι) :
    Except ServerFault (List ι × WorkerWorld α ι) :=
  if (w.transport t).closeState = .closed then .ok (input.encoded, w)
  else do
    let started ← w.startConnection t input
    if (started.2.transport t).serverConnectionId = none then return started
    else return (started.1, started.2.modify t fun transport => transport.readFrames input)

/-- `onReadData` behind `maybeWriteNewSessionTicket`. -/
def notifyAfterRead (t : Nat) (input : ReadInput ι) (encoded : List ι) (w : WorkerWorld α ι) :
    Except ServerFault (WorkerWorld α ι) := do
  let w ← (w.maybeNotifyConnectionIdBound t).maybeNotifyHandshakeFinished t
    input.onFullHandshakeDone
  let w ← (w.maybeNotifyConnectionIdRetired t).maybeIssueConnectionIds t encoded
  w.maybeNotifyTransportReady t input.onTransportReady

/-- The world, and the exception that leaves the function. -/
def onReadData (t : Nat) (input : ReadInput ι) (w : WorkerWorld α ι) :
    Except ServerFault (Option Bool × WorkerWorld α ι) := do
  let waitingForFirstPacket := !(w.transport t).hasReceivedPackets
  let read ← w.onServerReadData t input
  if (read.2.transport t).closeState = .closed then return (none, read.2)
  else if input.readException.isSome then return (input.readException, read.2)
  else do
    let w ← (read.2.maybeNotifyRouting t).maybeNotifyFirstPeerPacket t waitingForFirstPacket
      input.onFirstPeerPacketProcessed
    if input.laterException.isSome then return (input.laterException, w)
    else do
      let w ← w.notifyAfterRead t input read.1
      return (none, w)

def onNetworkData (t : Nat) (input : ReadInput ι) (w : WorkerWorld α ι) :
    Except ServerFault (WorkerWorld α ι) := do
  let read ← w.onReadData t input
  match read.1, input.peerConnectionError with
  | some noDrain, _ => read.2.closeImpl t true noDrain
  | none, some noDrain => read.2.closeImpl t true noDrain
  | none, none =>
      if (read.2.transport t).closeState ≠ .open then return read.2
      else read.2.appCalls t input.afterwards

/-- `processPendingData(false)`. -/
def processPendingData (t : Nat) : List (ReadInput ι) → WorkerWorld α ι →
    Except ServerFault (WorkerWorld α ι)
  | [], w => .ok w
  | input :: pendingData, w => do
      let w ← w.onNetworkData t input
      if (w.transport t).closeState = .closed then return w
      else processPendingData t pendingData w

/-- `onCryptoEventAvailable` behind `processPendingData`. -/
def notifyAfterCrypto (t : Nat) (input : CryptoInput ι) (w : WorkerWorld α ι) :
    Except ServerFault (WorkerWorld α ι) :=
  if (w.transport t).closeState = .closed then .ok w
  else match input.laterException with
    | some noDrain => w.closeImpl t true noDrain
    | none => do
        let w ← (w.maybeNotifyConnectionIdBound t).maybeNotifyHandshakeFinished t
          input.onFullHandshakeDone
        let w ← w.maybeIssueConnectionIds t input.encoded
        match input.writeException with
        | some noDrain => w.closeImpl t true noDrain
        | none => w.maybeNotifyTransportReady t input.onTransportReady

/-- The transport of a crypto event when its pending data are read. -/
def updated (w : WorkerWorld α ι) (t : Nat) (input : CryptoInput ι) : WorkerWorld α ι :=
  (w.modify t fun transport =>
    { transport with
      isHandshakeDone := transport.isHandshakeDone || input.handshakeDone }).modify t
        fun transport =>
    { transport with
      hasWriteCipher := transport.hasWriteCipher || input.writeCipher
      peerActiveConnectionIdLimit := input.peerActiveConnectionIdLimit }

/-- The handshake goes on before the event is delivered; a closed transport has taken its callback
back. -/
def onCryptoEventAvailable (t : Nat) (input : CryptoInput ι) (w : WorkerWorld α ι) :
    Except ServerFault (WorkerWorld α ι) :=
  if (w.transport t).closeState = .closed then .ok w
  else
    let done := w.modify t fun transport =>
      { transport with isHandshakeDone := transport.isHandshakeDone || input.handshakeDone }
    if (done.transport t).closeState ≠ .open then .ok done
    else
      match input.updateException with
      | some noDrain => done.closeImpl t true noDrain
      | none => do
          let w ← (w.updated t input).processPendingData t input.pendingData
          w.notifyAfterCrypto t input

/-! ### The worker -/

def makeTransport (source : α × ι) (setup : TransportSetup) (w : WorkerWorld α ι) :
    Except ServerFault (WorkerWorld α ι) :=
  if source ∈ w.sourceAddressMap.map (·.1) then .error .sourceAddress
  else .ok
    { w with
      globalUnfinishedHandshakes := w.globalUnfinishedHandshakes + 1
      sourceAddressMap := emplaceEntry source w.created w.sourceAddressMap
      created := w.created + 1
      transport := Function.update w.transport w.created (.new source setup) }

/-- `dispatchPacketData` for a packet with a long header: the transport that it is for, which is made
for an Initial packet. -/
def dispatchLongHeader (source : α × ι) (isInitial : Bool) (setup : TransportSetup)
    (w : WorkerWorld α ι) : Except ServerFault (Option Nat × WorkerWorld α ι) :=
  match findEntry source.2 w.connectionIdMap with
  | some t => .ok (some t, w)
  | none => match findEntry source w.sourceAddressMap with
    | some t => .ok (some t, w)
    | none =>
        if isInitial then do
          let made ← w.makeTransport source setup
          return (some w.created, made)
        else .ok (none, w)

/-- What `shutdownAllConnections` does with each transport that it finds. -/
def shutdownTransport (w : WorkerWorld α ι) (t : Nat) : Except ServerFault (WorkerWorld α ι) :=
  (w.modify t fun transport =>
    { transport with routingCb := false, handshakeFinishedCb := false }).closeNow t

def shutdownAllConnections (w : WorkerWorld α ι) : Except ServerFault (WorkerWorld α ι) :=
  if w.shutdown then .ok w
  else do
    let w ← (w.sourceAddressMap.map (·.2)).foldlM shutdownTransport { w with shutdown := true }
    let w ← w.boundServerTransports.foldlM shutdownTransport w
    return { w with boundServerTransports := [], sourceAddressMap := [], connectionIdMap := [] }

/-- The destructor, for a transport that no map holds. A timeout that is scheduled goes with it. -/
def destroy (t : Nat) (w : WorkerWorld α ι) : Except ServerFault (WorkerWorld α ι) :=
  if t ∈ w.connectionIdMap.map (·.2) ∨ t ∈ w.sourceAddressMap.map (·.2) then .ok w
  else do
    let w ← w.closeImpl t false false
    return w.modify t fun transport => { transport with drainTimeout := false }

end WorkerWorld

inductive WorkerEvent (α ι : Type) where
  | longHeader (source : α × ι) (isInitial : Bool) (setup : TransportSetup) (input : ReadInput ι)
  | shortHeader (dstConnId : ι) (input : ReadInput ι)
  | cryptoEvent (t : Nat) (input : CryptoInput ι)
  | appCalls (t : Nat) (calls : List AppCall)
  /-- A timeout, a write that fails, or the last stream of a graceful close. -/
  | closeImpl (t : Nat) (drainConnection noDrain : Bool)
  | drainTimeout (t : Nat)
  | destroy (t : Nat)
  | shutdown

namespace WorkerWorld

variable {α ι : Type} [DecidableEq α] [DecidableEq ι]

def start (source : α × ι) (unfinished : Int) : WorkerWorld α ι where
  connectionIdMap := []
  sourceAddressMap := []
  boundServerTransports := []
  globalUnfinishedHandshakes := unfinished
  shutdown := false
  created := 0
  transport := fun _ => .absent source
  unbindings := []

/-- Nothing is taken from the socket after a shutdown. -/
def step (w : WorkerWorld α ι) : WorkerEvent α ι → Except ServerFault (WorkerWorld α ι)
  | .longHeader source isInitial setup input =>
      if w.shutdown then .ok w
      else do
        let found ← w.dispatchLongHeader source isInitial setup
        match found.1 with
        | none => return found.2
        | some t => found.2.onNetworkData t input
  | .shortHeader dstConnId input =>
      if w.shutdown then .ok w
      else match findEntry dstConnId w.connectionIdMap with
        | none => .ok w
        | some t => w.onNetworkData t input
  | .cryptoEvent t input => w.onCryptoEventAvailable t input
  | .appCalls t calls => w.appCalls t calls
  | .closeImpl t drainConnection noDrain => w.closeImpl t drainConnection noDrain
  | .drainTimeout t =>
      if (w.transport t).drainTimeout then
        .ok ((w.modify t fun transport =>
          { transport with drainTimeout := false }).drainTimeoutExpired t)
      else .ok w
  | .destroy t => w.destroy t
  | .shutdown => w.shutdownAllConnections

/-! ### Transports without a routing callback -/

/-- The maps of the worker are as they were, and the transport has still no routing callback. -/
structure SameMaps (t : Nat) (w w' : WorkerWorld α ι) : Prop where
  connectionIdMap : w'.connectionIdMap = w.connectionIdMap
  sourceAddressMap : w'.sourceAddressMap = w.sourceAddressMap
  boundServerTransports : w'.boundServerTransports = w.boundServerTransports
  routingCb : (w'.transport t).routingCb = false

variable {t : Nat} {w : WorkerWorld α ι}

omit [DecidableEq α] [DecidableEq ι] in
theorem SameMaps.trans {w' w'' : WorkerWorld α ι} (h : SameMaps t w w') (h' : SameMaps t w' w'') :
    SameMaps t w w'' :=
  ⟨h'.connectionIdMap.trans h.connectionIdMap, h'.sourceAddressMap.trans h.sourceAddressMap,
    h'.boundServerTransports.trans h.boundServerTransports, h'.routingCb⟩

omit [DecidableEq α] [DecidableEq ι] in
theorem SameMaps.modify {f : ServerTransport α ι → ServerTransport α ι}
    (h : (f (w.transport t)).routingCb = false) : SameMaps t w (w.modify t f) :=
  ⟨rfl, rfl, rfl, by rwa [transport_modify]⟩

theorem unbindConnection_of_unbound (h : (w.transport t).routingCb = false) :
    w.unbindConnection t = w := by
  unfold unbindConnection
  rw [h]
  rfl

omit [DecidableEq α] [DecidableEq ι] in
theorem closeTransport_sameMaps (h : (w.transport t).routingCb = false) :
    Ends (fun _ => True) (w.closeTransport t) (SameMaps t w) := by
  unfold closeTransport
  split
  · unfold onHandshakeUnfinished
    dsimp only
    split
    · exact .ok ⟨rfl, rfl, rfl, by rw [transport_modify, ← h]⟩
    · exact .error trivial
  · exact .ok ⟨rfl, rfl, rfl, h⟩

theorem closeImpl_sameMaps (drainConnection noDrain : Bool) (h : (w.transport t).routingCb = false) :
    Ends (fun _ => True) (w.closeImpl t drainConnection noDrain) (SameMaps t w) := by
  unfold closeImpl
  split
  · exact .ok ⟨rfl, rfl, rfl, h⟩
  · have hclosed : SameMaps t w (w.modify t fun transport =>
        { transport with closeState := .closed }) := .modify h
    refine (closeTransport_sameMaps hclosed.routingCb).bind fun w' hw' => Ends.ok ?_
    have hcallback : SameMaps t w (w'.modify t fun transport =>
        { transport with connSetupCallback := false }) :=
      hclosed.trans (hw'.trans (.modify hw'.routingCb))
    unfold drainOrUnbind
    split
    · exact hcallback.trans (.modify hcallback.routingCb)
    · rwa [drainTimeoutExpired, unbindConnection_of_unbound hcallback.routingCb]

theorem closeNow_sameMaps (h : (w.transport t).routingCb = false) :
    Ends (fun _ => True) (w.closeNow t) (SameMaps t w) := by
  unfold closeNow
  refine (closeImpl_sameMaps false false h).bind fun w' hw' => ?_
  split
  · have hdrained : SameMaps t w (w'.modify t fun transport =>
        { transport with drainTimeout := false }) := hw'.trans (.modify hw'.routingCb)
    rw [drainTimeoutExpired, unbindConnection_of_unbound hdrained.routingCb]
    exact .ok hdrained
  · exact .ok hw'

theorem shutdownTransport_sameMaps (t : Nat) (w : WorkerWorld α ι) :
    Ends (fun _ => True) (w.shutdownTransport t) (SameMaps t w) := by
  have hnulled : SameMaps t w (w.modify t fun transport =>
      { transport with routingCb := false, handshakeFinishedCb := false }) := .modify rfl
  exact (closeNow_sameMaps hnulled.routingCb).imp fun w' hw' => hnulled.trans hw'

end WorkerWorld

end MasqueQuic
