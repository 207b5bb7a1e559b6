/-
How `QuicServerWorker` decides what becomes of a datagram (`handleNetworkData`, `forwardNetworkData`,
`dispatchPacketData`), with `QuicServer::routeDataToWorker` between them.

A datagram ends in one `PacketOutcome`. `isForwardedData` goes through all four functions; it says that
the datagram comes from another server, and then no outcome is `forwarded`
(`handleNetworkData_not_forwarded`).
-/

import MasqueQuic.Quic.AddressTokens

namespace MasqueQuic

/-! ### Addresses and connection IDs -/

/-- What is used of `folly::SocketAddress`, for addresses of every family: the bytes of its
`sockaddr`, and `getPort`, which throws for an address without a port. -/
structure SocketAddressLib (α : Type) where
  getAddress : α → Bytes
  setFromSockaddr : Bytes → Option α
  isFamilyInet : α → Bool
  getIPAddress : α → IPAddress
  getPort : α → Option Nat

def sizeofSockaddrIn6 : Nat := 28

/-- An address of an IP client comes back from its `sockaddr`, which is one of two structures. -/
structure SocketAddressLib.Documented {α : Type} (lib : SocketAddressLib α) : Prop where
  setFromSockaddr_getAddress : ∀ address, lib.isFamilyInet address →
    lib.setFromSockaddr (lib.getAddress address) = some address
  length_getAddress_le : ∀ address, lib.isFamilyInet address →
    (lib.getAddress address).length ≤ sizeofSockaddrIn6

structure ServerConnectionIdParams where
  hostId : Nat
  processId : Nat
  workerId : Nat

/-- `ConnectionIdAlgo`; `none` is the error of `parseConnectionId`. -/
structure ConnectionIdAlgo where
  canParse : BoundedConnectionId → Bool
  parseConnectionId : BoundedConnectionId → Option ServerConnectionIdParams

def kMinSelfConnectionIdV1Size : Nat := 4
def kDefaultConnectionIdSize : Nat := 8

/-! ### Datagrams -/

structure RoutingData where
  headerForm : HeaderForm
  isInitial : Bool
  is0Rtt : Bool
  destinationConnId : BoundedConnectionId
  sourceConnId : Option BoundedConnectionId

def RoutingData.clientChosenDcid (routingData : RoutingData) : Bool :=
  routingData.isInitial || routingData.is0Rtt

/-- The data of one datagram, and the tick of the clock at which it came. -/
structure NetworkData where
  packet : IOBuf
  receiveTimePoint : Int64

def NetworkData.totalData (networkData : NetworkData) : Nat :=
  networkData.packet.computeChainDataLength

inductive PacketDropReason where
  | serverShutdown
  | invalidSrcPort
  | workerNotInitialized
  | invalidPacketInitialByte
  | invalidPacketSize
  | invalidPacketVersion
  | invalidPacketCid
  | parseErrorLongHeader
  | parseErrorException
  | unknownCidVersion
  | parseErrorBadDcid
  | parseErrorDcid
  | routingErrorWrongHost
  | connectionNotFound
  | cannotForwardData
  | invalidPacketSizeInitial
  | cannotMakeTransport
  deriving DecidableEq

inductive PacketOutcome (α : Type) where
  | dropped (reason : PacketDropReason)
  /-- Dropped without a reason, since the server has shut down before its worker takes it up. -/
  | discarded
  | versionNegotiation
  | healthCheck
  | retry
  /-- `forwardPacketToAnotherServer`. -/
  | forwarded (client : α) (data : IOBuf) (recvTime : Int64)
  | buffered0Rtt (dstConnId : BoundedConnectionId) (networkData : NetworkData)
  | delivered (transport : Nat) (client : α) (networkData : NetworkData)
  /-- A `CHECK` fails. -/
  | aborted

/-- The datagram leaves for another server. -/
def PacketOutcome.isForwarded {α : Type} : PacketOutcome α → Bool
  | .forwarded _ _ _ => true
  | _ => false

/-! ### The worker -/

/-- A worker, seen at one datagram: transports are numbers, and `makeTransport`, the limits and the
clock of the tokens are asked at most once for a datagram. -/
structure PacketWorker (α : Type) where
  shutdown : Bool
  hasCallback : Bool
  isBlockListedSrcPort : Nat → Bool
  supportedVersions : List QuicVersion
  rejectNewConnections : Bool
  healthCheckToken : Option Bytes
  packetForwardingEnabled : Bool
  hostId : Nat
  processId : Nat
  connIdAlgo : ConnectionIdAlgo
  connectionIdMap : BoundedConnectionId → Option Nat
  sourceAddressMap : α × BoundedConnectionId → Option Nat
  tokens : TokenServer
  nowInMs : UInt64
  limited : Bool
  makeTransport : Option Nat

namespace PacketWorker

variable {α : Type} (worker : PacketWorker α) (lib : SocketAddressLib α)

/-- What `maybeSendVersionNegotiationPacketOrDrop` does with the datagram; `none` where it returns
false. -/
def maybeSendVersionNegotiationPacketOrDrop (isInitial : Bool) (version : QuicVersion)
    (datagramLen : Nat) : Option (PacketOutcome α) :=
  if isInitial ∧ datagramLen < kMinInitialPacketSize then some (.dropped .invalidPacketSize)
  else
    let isInitial := isInitial && version ≠ .versionNegotiation
    if worker.rejectNewConnections ∧ isInitial then some .versionNegotiation
    else
      let negotiationNeeded := version ∉ worker.supportedVersions
      if negotiationNeeded ∧ isInitial = false then some (.dropped .invalidPacketVersion)
      else if negotiationNeeded then some .versionNegotiation
      else none

def tryHandlingAsHealthCheck (data : IOBuf) : Bool := worker.healthCheckToken = some data.bytes

/-- `none` is `PacketDropReason::NONE`: the ID is one of another process on this host. -/
def isDstConnIdMisrouted (dstConnId : BoundedConnectionId) : Option PacketDropReason :=
  if worker.connIdAlgo.canParse dstConnId = false then some .parseErrorBadDcid
  else match worker.connIdAlgo.parseConnectionId dstConnId with
    | none => some .parseErrorDcid
    | some connIdParams =>
        if connIdParams.hostId ≠ worker.hostId then some .routingErrorWrongHost
        else if connIdParams.processId = worker.processId then some .connectionNotFound
        else none

/-- The guard of `dispatchPacketData`, where `shouldFwdPacket` is set. A stateless reset that is sent
with the drop is not shown. -/
def handlePacketFwdOrDrop (client : α) (routingData : RoutingData) (networkData : NetworkData)
    (isForwardedData : Bool) : PacketOutcome α :=
  match worker.isDstConnIdMisrouted routingData.destinationConnId with
  | some packetDropReason => .dropped packetDropReason
  | none =>
      if worker.packetForwardingEnabled = false ∨ isForwardedData then
        .dropped .cannotForwardData
      else .forwarded client networkData.packet networkData.receiveTimePoint

/-- The end of `dispatchPacketData`: an Initial packet that belongs to no connection. -/
def dispatchNewConnection (client : α) (routingData : RoutingData) (networkData : NetworkData)
    (quicVersion : Option QuicVersion) : PacketOutcome α :=
  if quicVersion = none then .aborted
  else
    match worker.tokens.dispatchInitial
      ⟨⟨lib.getIPAddress client, (lib.getPort client).getD 0⟩, routingData.destinationConnId,
        networkData.packet.bytes, worker.nowInMs, worker.limited, worker.makeTransport.isSome⟩,
      worker.makeTransport with
    | .dropped, _ => .dropped .invalidPacketSizeInitial
    | .retry _, _ => .retry
    | .connection _, some transport => .delivered transport client networkData
    | _, _ =>
        if routingData.sourceConnId = none then .aborted else .dropped .cannotMakeTransport

def dispatchPacketData (client : α) (routingData : RoutingData) (networkData : NetworkData)
    (quicVersion : Option QuicVersion) (isForwardedData : Bool) : PacketOutcome α :=
  match worker.connectionIdMap routingData.destinationConnId with
  | some transport => .delivered transport client networkData
  | none =>
      if routingData.headerForm = .short then
        worker.handlePacketFwdOrDrop client routingData networkData isForwardedData
      else
        match worker.sourceAddressMap (client, routingData.destinationConnId) with
        | some transport => .delivered transport client networkData
        | none =>
            if routingData.is0Rtt then .buffered0Rtt routingData.destinationConnId networkData
            else if routingData.isInitial = false then
              worker.handlePacketFwdOrDrop client routingData networkData isForwardedData
            else worker.dispatchNewConnection lib client routingData networkData quicVersion

end PacketWorker

/-! ### The server -/

/-- The server around the worker of this thread. A datagram for a worker of another thread is taken up
there, where `shutdownByThen` is seen. -/
structure PacketServer (α : Type) where
  initialized : Bool
  shutdown : Bool
  shutdownByThen : Bool
  connIdAlgo : ConnectionIdAlgo
  workerPtr : Option (PacketWorker α)
  workers : List (PacketWorker α)
  isInEventBaseThread : PacketWorker α → Bool

namespace PacketServer

variable {α : Type} (server : PacketServer α) (lib : SocketAddressLib α)

/-- `getWorkerToRouteTo`, where `->` throws for an ID that does not parse. -/
def getWorkerToRouteTo (routingData : RoutingData) : Option (PacketWorker α) :=
  match server.connIdAlgo.parseConnectionId routingData.destinationConnId with
  | none => none
  | some params => server.workers[params.workerId % server.workers.length]?

def routeDataToWorker (client : α) (routingData : RoutingData) (networkData : NetworkData)
    (quicVersion : Option QuicVersion) (isForwardedData : Bool) : PacketOutcome α :=
  if server.initialized = false then .dropped .workerNotInitialized
  else if server.shutdown then .dropped .serverShutdown
  else
    match routingData.clientChosenDcid, server.workerPtr with
    | true, some worker =>
        worker.dispatchPacketData lib client routingData networkData quicVersion isForwardedData
    | _, _ =>
        match server.getWorkerToRouteTo routingData with
        | none => .dropped .parseErrorException
        | some worker =>
            if server.isInEventBaseThread worker = false ∧ server.shutdownByThen then .discarded
            else worker.dispatchPacketData lib client routingData networkData quicVersion
              isForwardedData

end PacketServer

namespace PacketWorker

variable {α : Type} (worker : PacketWorker α) (lib : SocketAddressLib α) (server : PacketServer α)

def forwardNetworkData (client : α) (routingData : RoutingData) (networkData : NetworkData)
    (quicVersion : Option QuicVersion) (isForwardedData : Bool) : PacketOutcome α :=
  if routingData.clientChosenDcid = false ∧
      worker.connIdAlgo.canParse routingData.destinationConnId = false then
    if worker.packetForwardingEnabled ∧ isForwardedData = false then
      .forwarded client networkData.packet networkData.receiveTimePoint
    else .dropped .unknownCidVersion
  else
    server.routeDataToWorker lib client routingData networkData quicVersion isForwardedData

/-- `handleNetworkData` for a packet whose first byte has been read. -/
def handlePacket (client : α) (data : IOBuf) (packetReceiveTime : Int64) (isForwardedData : Bool)
    (initialByte : UInt8) (cursor : Bytes) : PacketOutcome α :=
  let failed := if worker.tryHandlingAsHealthCheck data then .healthCheck
    else .dropped .parseErrorLongHeader
  match getHeaderForm initialByte with
  | .short =>
      match (parseShortHeaderInvariants initialByte kDefaultConnectionIdSize).run cursor with
      | .error _ => failed
      | .ok (destinationConnId, _) =>
          worker.forwardNetworkData lib server client
            ⟨.short, false, false, destinationConnId, none⟩ ⟨data, packetReceiveTime⟩ none
            isForwardedData
  | .long =>
      match (parseLongHeaderInvariant initialByte).run cursor with
      | .error _ => failed
      | .ok (parsed, _) =>
          let longHeaderType := parseLongHeaderType initialByte
          let isInitial := longHeaderType = .initial
          let is0Rtt := longHeaderType = .zeroRtt
          match worker.maybeSendVersionNegotiationPacketOrDrop isInitial parsed.invariant.version
            data.computeChainDataLength with
          | some outcome => outcome
          | none =>
              if (¬ (isInitial ∨ is0Rtt)) ∧
                  parsed.invariant.dstConnId.size < kMinSelfConnectionIdV1Size then
                .dropped .invalidPacketCid
              else worker.forwardNetworkData lib server client
                ⟨.long, isInitial, is0Rtt, parsed.invariant.dstConnId,
                  some parsed.invariant.srcConnId⟩
                ⟨data, packetReceiveTime⟩ (some parsed.invariant.version) isForwardedData

def handleNetworkData (client : α) (data : IOBuf) (packetReceiveTime : Int64)
    (isForwardedData : Bool) : PacketOutcome α :=
  if worker.shutdown then .dropped .serverShutdown
  else
    match lib.getPort client with
    | none => .dropped .parseErrorException
    | some port =>
        if worker.isBlockListedSrcPort port then .dropped .invalidSrcPort
        else if worker.hasCallback = false then .dropped .workerNotInitialized
        else
          match data.bytes with
          | [] => .dropped .invalidPacketInitialByte
          | initialByte :: cursor =>
              worker.handlePacket lib server client data packetReceiveTime isForwardedData
                initialByte cursor

/-! ### What came from another server stays here -/

variable {worker lib server}

theorem handlePacketFwdOrDrop_not_forwarded (client : α) (routingData : RoutingData)
    (networkData : NetworkData) :
    (worker.handlePacketFwdOrDrop client routingData networkData true).isForwarded = false := by
  unfold handlePacketFwdOrDrop
  split
  · rfl
  · rw [if_pos (.inr rfl)]
    rfl

theorem dispatchNewConnection_not_forwarded (client : α) (routingData : RoutingData)
    (networkData : NetworkData) (quicVersion : Option QuicVersion) :
    (worker.dispatchNewConnection lib client routingData networkData
      quicVersion).isForwarded = false := by
  unfold dispatchNewConnection
  split
  · rfl
  · split
    · rfl
    · rfl
    · rfl
    · split
      · rfl
      · rfl

theorem dispatchPacketData_not_forwarded (client : α) (routingData : RoutingData)
    (networkData : NetworkData) (quicVersion : Option QuicVersion) :
    (worker.dispatchPacketData lib client routingData networkData quicVersion
      true).isForwarded = false := by
  unfold dispatchPacketData
  split
  · rfl
  · split
    · exact handlePacketFwdOrDrop_not_forwarded client routingData networkData
    · split
      · rfl
      · split
        · rfl
        · split
          · exact handlePacketFwdOrDrop_not_forwarded client routingData networkData
          · exact dispatchNewConnection_not_forwarded client routingData networkData quicVersion

theorem routeDataToWorker_not_forwarded (client : α) (routingData : RoutingData)
    (networkData : NetworkData) (quicVersion : Option QuicVersion) :
    (server.routeDataToWorker lib client routingData networkData quicVersion
      true).isForwarded = false := by
  unfold PacketServer.routeDataToWorker
  split
  · rfl
  · split
    · rfl
    · split
      · exact dispatchPacketData_not_forwarded client routingData networkData quicVersion
      · split
        · rfl
        · split
          · rfl
          · exact dispatchPacketData_not_forwarded client routingData networkData quicVersion

theorem forwardNetworkData_not_forwarded (client : α) (routingData : RoutingData)
    (networkData : NetworkData) (quicVersion : Option QuicVersion) :
    (worker.forwardNetworkData lib server client routingData networkData quicVersion
      true).isForwarded = false := by
  unfold forwardNetworkData
  split
  · rw [if_neg (fun h => by cases h.2)]
    rfl
  · exact routeDataToWorker_not_forwarded client routingData networkData quicVersion

theorem maybeSendVersionNegotiationPacketOrDrop_not_forwarded {isInitial : Bool}
    {version : QuicVersion} {datagramLen : Nat} {outcome : PacketOutcome α}
    (h : worker.maybeSendVersionNegotiationPacketOrDrop isInitial version datagramLen =
      some outcome) : outcome.isForwarded = false := by
  unfold maybeSendVersionNegotiationPacketOrDrop at h
  dsimp only at h
  split at h
  · cases h
    rfl
  · split at h
    · cases h
      rfl
    · split at h
      · cases h
        rfl
      · split at h
        · cases h
          rfl
        · cases h

theorem handlePacket_not_forwarded (client : α) (data : IOBuf) (packetReceiveTime : Int64)
    (initialByte : UInt8) (cursor : Bytes) :
    (worker.handlePacket lib server client data packetReceiveTime true initialByte
      cursor).isForwarded = false := by
  have hfailed : (if worker.tryHandlingAsHealthCheck data then PacketOutcome.healthCheck
      else .dropped .parseErrorLongHeader : PacketOutcome α).isForwarded = false := by
    split
    · rfl
    · rfl
  unfold handlePacket
  dsimp only
  split
  · split
    · exact hfailed
    · exact forwardNetworkData_not_forwarded ..
  · split
    · exact hfailed
    · split
      · next hdrop => exact maybeSendVersionNegotiationPacketOrDrop_not_forwarded hdrop
      · split
        · rfl
        · exact forwardNetworkData_not_forwarded ..

/-- A datagram from another server is never sent on. -/
theorem handleNetworkData_not_forwarded (client : α) (data : IOBuf) (packetReceiveTime : Int64) :
    (worker.handleNetworkData lib server client data packetReceiveTime true).isForwarded =
      false := by
  unfold handleNetworkData
  split
  · rfl
  · split
    · rfl
    · split
      · rfl
      · split
        · rfl
        · split
          · rfl
          · exact handlePacket_not_forwarded ..

end PacketWorker

end MasqueQuic
