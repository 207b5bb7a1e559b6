/-
A server that resumes a session (`DefaultAppTokenValidator::validate` of
`quic/server/handshake/DefaultAppTokenValidator.cpp`, `validateAndUpdateSourceToken` and
`updateTransportParamsFromTicket` of `quic/server/state/ServerStateMachine.cpp`).

The limits that the server announces are fixed when the first packet of the client arrives. The
validator runs later and, if it accepts the ticket, overwrites the settings and the flow control state
of the connection with the values in the ticket. A ticket that has been decoded is given; the check of
the application is a parameter. `ResumedConn` is the connection afterwards: the two machines that
enforce the limits, and as histories the limits that the client has been told.
-/

import MasqueQuic.Quic.ClientParameters
import MasqueQuic.Quic.PeerStreams

namespace MasqueQuic

def kMinimumNumOfParamsInTheTicket : Nat := 8

def kMaxNumTokenSourceAddresses : Nat := 3

inductive ZeroRttSourceTokenMatchingPolicy where
  | rejectIfNoExactMatch
  | limitIfNoExactMatch
  | alwaysReject
  deriving DecidableEq

structure AppToken (Address : Type) where
  transportParams : List TransportParameter
  sourceAddresses : List Address
  appParams : Bytes

/-- The limits in `ServerTransportParametersExtension`. -/
structure AnnouncedLimits where
  initialMaxData : Nat
  initialMaxStreamDataBidiLocal : Nat
  initialMaxStreamDataBidiRemote : Nat
  initialMaxStreamDataUni : Nat
  initialMaxStreamsBidi : Nat
  initialMaxStreamsUni : Nat

/-- The configuration of the server. -/
structure ResumptionSettings where
  idleTimeout : Nat
  maxRecvPacketSize : Nat
  receive : ReceiveSettings
  streams : PeerStreamSettings
  zeroRttSourceTokenMatchingPolicy : ZeroRttSourceTokenMatchingPolicy
  limitedCwndInMss : Nat
  udpSendPacketLen : Nat

/-- The settings for data are in `receiver` and those for streams in `peerStreams`, beside what is
enforced. -/
structure ResumingServer (Address : Type) where
  idleTimeout : Nat
  maxRecvPacketSize : Nat
  zeroRttSourceTokenMatchingPolicy : ZeroRttSourceTokenMatchingPolicy
  limitedCwndInMss : Nat
  udpSendPacketLen : Nat
  peerAddress : Address
  isClientAddrVerified : Bool
  transportParamsMatching : Option Bool
  sourceTokenMatching : Option Bool
  tokenSourceAddresses : List Address
  writableBytesLimit : Option Nat
  receiver : Receiver
  peerStreams : PeerStreams
  announced : AnnouncedLimits

namespace RecvConn

/-- The settings of the ticket, and `updateFlowControlStateWithSettings`. -/
def updateTransportParamsFromTicket (c : RecvConn) (initialMaxData initialMaxStreamDataBidiLocal
    initialMaxStreamDataBidiRemote initialMaxStreamDataUni : Nat) : RecvConn :=
  { c with
    transportSettings := { c.transportSettings with
      advertisedInitialConnectionWindowSize := UInt64.ofNat initialMaxData
      advertisedInitialBidiLocalStreamWindowSize := UInt64.ofNat initialMaxStreamDataBidiLocal
      advertisedInitialBidiRemoteStreamWindowSize := UInt64.ofNat initialMaxStreamDataBidiRemote
      advertisedInitialUniStreamWindowSize := UInt64.ofNat initialMaxStreamDataUni }
    flowControlState := { c.flowControlState with
      windowSize := (UInt64.ofNat initialMaxData).toNat
      advertisedMaxOffset := (UInt64.ofNat initialMaxData).toNat } }

end RecvConn

namespace ResumingServer

variable {Address : Type}

/-- A connection whose first packet has arrived, so that its limits are announced. -/
def new (settings : ResumptionSettings) (peerAddress : Address) :
    Except PeerStreamFailure (ResumingServer Address) := do
  let peerStreams ← PeerStreams.new .server settings.streams
  return {
    idleTimeout := settings.idleTimeout
    maxRecvPacketSize := settings.maxRecvPacketSize
    zeroRttSourceTokenMatchingPolicy := settings.zeroRttSourceTokenMatchingPolicy
    limitedCwndInMss := settings.limitedCwndInMss
    udpSendPacketLen := settings.udpSendPacketLen
    peerAddress
    isClientAddrVerified := false
    transportParamsMatching := none
    sourceTokenMatching := none
    tokenSourceAddresses := []
    writableBytesLimit := none
    receiver := .new .server settings.receive
    peerStreams
    announced := {
      initialMaxData := settings.receive.advertisedInitialConnectionWindowSize.toNat
      initialMaxStreamDataBidiLocal :=
        settings.receive.advertisedInitialBidiLocalStreamWindowSize.toNat
      initialMaxStreamDataBidiRemote :=
        settings.receive.advertisedInitialBidiRemoteStreamWindowSize.toNat
      initialMaxStreamDataUni := settings.receive.advertisedInitialUniStreamWindowSize.toNat
      initialMaxStreamsBidi := settings.streams.advertisedInitialMaxStreamsBidi
      initialMaxStreamsUni := settings.streams.advertisedInitialMaxStreamsUni } }

/-! ### The validator -/

section

variable [DecidableEq Address]

/-- Matching addresses are moved to the end. If there are none the address of the peer is added, and
the oldest one goes when there is no room. -/
def validateAndUpdateSourceToken (conn : ResumingServer Address) (sourceAddresses : List Address) :
    Bool × ResumingServer Address :=
  if conn.peerAddress ∈ sourceAddresses then
    (decide (conn.zeroRttSourceTokenMatchingPolicy ≠ .alwaysReject), { conn with
      isClientAddrVerified := true
      sourceTokenMatching := some true
      tokenSourceAddresses := sourceAddresses.filter (· ≠ conn.peerAddress) ++
        sourceAddresses.filter (· = conn.peerAddress) })
  else
    let sourceAddresses := if sourceAddresses.length ≥ kMaxNumTokenSourceAddresses then
      sourceAddresses.drop 1 else sourceAddresses
    let limited := decide (conn.zeroRttSourceTokenMatchingPolicy = .limitIfNoExactMatch)
    (limited, { conn with
      sourceTokenMatching := some false
      tokenSourceAddresses := sourceAddresses ++ [conn.peerAddress]
      writableBytesLimit :=
        if limited then some (conn.limitedCwndInMss * conn.udpSendPacketLen)
        else conn.writableBytesLimit })

def updateTransportParamsFromTicket (conn : ResumingServer Address)
    (idleTimeout maxRecvPacketSize initialMaxData initialMaxStreamDataBidiLocal
      initialMaxStreamDataBidiRemote initialMaxStreamDataUni initialMaxStreamsBidi
      initialMaxStreamsUni : Nat) : ResumingServer Address :=
  { conn with
    idleTimeout
    maxRecvPacketSize
    receiver := { conn.receiver with
      conn := conn.receiver.conn.updateTransportParamsFromTicket initialMaxData
        initialMaxStreamDataBidiLocal initialMaxStreamDataBidiRemote initialMaxStreamDataUni }
    peerStreams := conn.peerStreams.updateTransportParamsFromTicket initialMaxStreamsBidi
      initialMaxStreamsUni }

/-- A value of the ticket that is missing, or that the test on it refuses, is not taken. -/
def takeIf (test : Nat → Bool) (value : Option Nat) : Option Nat := value.filter test

/-- The values of the ticket, if all of them are acceptable. -/
structure TicketParams where
  idleTimeout : Nat
  maxPacketSize : Nat
  maxData : Nat
  maxStreamDataBidiLocal : Nat
  maxStreamDataBidiRemote : Nat
  maxStreamDataUni : Nat
  maxStreamsBidi : Nat
  maxStreamsUni : Nat

/-- The checks on the parameters. A later parameter is decoded only if the checks before it have
passed. -/
def matchParams (conn : ResumingServer Address) (params : List TransportParameter) :
    ParameterResult (Option TicketParams) := do
  let settings := conn.receiver.conn.transportSettings
  if params.length < kMinimumNumOfParamsInTheTicket then return none
  let some idleTimeout := takeIf (conn.idleTimeout == ·)
    (← getIntegerParameter params .idleTimeout) | return none
  let some maxPacketSize := takeIf (· ≤ conn.maxRecvPacketSize)
    (← getIntegerParameter params .maxPacketSize) | return none
  let some maxData := takeIf (· ≤ settings.advertisedInitialConnectionWindowSize.toNat)
    (← getIntegerParameter params .initialMaxData) | return none
  let ticketBidiLocal ← getIntegerParameter params .initialMaxStreamDataBidiLocal
  let ticketBidiRemote ← getIntegerParameter params .initialMaxStreamDataBidiRemote
  let ticketUni ← getIntegerParameter params .initialMaxStreamDataUni
  let some maxStreamDataBidiLocal := takeIf
    (· ≤ settings.advertisedInitialBidiLocalStreamWindowSize.toNat) ticketBidiLocal | return none
  let some maxStreamDataBidiRemote := takeIf
    (· ≤ settings.advertisedInitialBidiRemoteStreamWindowSize.toNat) ticketBidiRemote | return none
  let some maxStreamDataUni := takeIf
    (· ≤ settings.advertisedInitialUniStreamWindowSize.toNat) ticketUni | return none
  let ticketStreamsBidi ← getIntegerParameter params .initialMaxStreamsBidi
  let ticketStreamsUni ← getIntegerParameter params .initialMaxStreamsUni
  let some maxStreamsBidi := takeIf
    (· ≤ (conn.peerStreams.remote .bidirectional).advertisedInitialMaxStreams) ticketStreamsBidi
    | return none
  let some maxStreamsUni := takeIf
    (· ≤ (conn.peerStreams.remote .unidirectional).advertisedInitialMaxStreams) ticketStreamsUni
    | return none
  return some ⟨idleTimeout, maxPacketSize, maxData, maxStreamDataBidiLocal, maxStreamDataBidiRemote,
    maxStreamDataUni, maxStreamsBidi, maxStreamsUni⟩

/-- Whether the ticket is accepted, and the connection. There is no token if the session has none or
if it cannot be decoded. -/
def validate (earlyDataAppParamsValidator : Option (Option Bytes → Bytes → Bool))
    (alpn : Option Bytes) (appToken : Option (AppToken Address)) (conn : ResumingServer Address) :
    ParameterResult (Bool × ResumingServer Address) := do
  let conn := { conn with transportParamsMatching := some false, sourceTokenMatching := some false }
  let some appToken := appToken | return (false, conn)
  let some ticket ← conn.matchParams appToken.transportParams | return (false, conn)
  let conn := { conn with transportParamsMatching := some true }
  let (matching, conn) := conn.validateAndUpdateSourceToken appToken.sourceAddresses
  if !matching then return (false, conn)
  if earlyDataAppParamsValidator.any fun validator => !validator alpn appToken.appParams then
    return (false, conn)
  return (true, conn.updateTransportParamsFromTicket ticket.idleTimeout ticket.maxPacketSize
    ticket.maxData ticket.maxStreamDataBidiLocal ticket.maxStreamDataBidiRemote
    ticket.maxStreamDataUni ticket.maxStreamsBidi ticket.maxStreamsUni)

end

end ResumingServer

/-! ### The connection afterwards -/

/-- `toldMaxData` and `toldMaxStreamData` are the limits on data that the client has been told. Those
on streams are in the history of `peerStreams`. -/
structure ResumedConn where
  receiver : Receiver
  peerStreams : PeerStreams
  toldMaxData : Nat
  toldMaxStreamData : StreamId → Nat

inductive ResumedEvent where
  | receive (e : ReceiverEvent)
  | peer (e : PeerStreamEvent)

inductive ResumedFault where
  | receive (e : QuicException)
  | peer (f : PeerStreamFailure)

def ResumedFault.code : ResumedFault → Option TransportErrorCode
  | .receive e => e.code
  | .peer f => f.code

namespace AnnouncedLimits

/-- The limit that is announced for a stream. -/
def maxStreamData (announced : AnnouncedLimits) (id : StreamId) : Nat :=
  if isUnidirectionalStream id then announced.initialMaxStreamDataUni
  else if isLocalStream .server id then announced.initialMaxStreamDataBidiLocal
  else announced.initialMaxStreamDataBidiRemote

def maxStreams (announced : AnnouncedLimits) : StreamDirectionality → Nat
  | .bidirectional => announced.initialMaxStreamsBidi
  | .unidirectional => announced.initialMaxStreamsUni

end AnnouncedLimits

namespace ResumedConn

def new {Address : Type} (conn : ResumingServer Address) : ResumedConn where
  receiver := conn.receiver
  peerStreams := conn.peerStreams
  toldMaxData := conn.announced.initialMaxData
  toldMaxStreamData := conn.announced.maxStreamData

/-- What the client is told by a step: the value of a `MAX_DATA` or of a `MAX_STREAM_DATA` frame. -/
def tell (c : ResumedConn) : ReceiverEvent → ResumedConn
  | .sendMaxData _ => { c with toldMaxData := max c.toldMaxData (generateMaxDataFrame c.receiver.conn) }
  | .sendMaxStreamData id _ =>
      match Receiver.getStream c.receiver.streams id with
      | none => c
      | some s => { c with
          toldMaxStreamData := Function.update c.toldMaxStreamData id
            (max (c.toldMaxStreamData id) (generateMaxStreamDataFrame s)) }
  | _ => c

def step (c : ResumedConn) : ResumedEvent → Except ResumedFault ResumedConn
  | .receive e =>
      match c.receiver.step e with
      | .error (x, _) => .error (.receive x)
      | .ok receiver => .ok { c.tell e with receiver }
  | .peer e =>
      match c.peerStreams.step e with
      | .error f => .error (.peer f)
      | .ok peerStreams => .ok { c with peerStreams }

end ResumedConn

end MasqueQuic
