/-
The exponent of the peer's ack delays, from the transport parameters to the read codec
(`processClientInitialParams` of `quic/server/state/ServerStateMachine.cpp`,
`processServerInitialParams` and `undoAllClientStateForRetry` of
`quic/client/state/ClientStateMachine.cpp`, and the places that set the codec's parameters).

The read codec is given its parameters when it is made: on the server with the first packet, on the
client in the constructor and again after a Retry packet. The transport parameters of the peer are
processed later and reach the connection only. So the codec keeps the default exponent in every run
(`ExponentConn.inv_run`), and the delays of 1-RTT packets are read as they were meant exactly when the
peer advertised the default (`ackDelay_interpreted_iff`).
-/

import MasqueQuic.Lib.Run
import MasqueQuic.Quic.AckFrameCodec
import MasqueQuic.Quic.Datagrams
import MasqueQuic.Quic.PacketHeaders

namespace MasqueQuic

/-! ### Transport parameters -/

/-- The parameters that are looked up. -/
inductive TransportParameterId where
  | originalDestinationConnectionId | idleTimeout | statelessResetToken | maxPacketSize
  | initialMaxData | initialMaxStreamDataBidiLocal | initialMaxStreamDataBidiRemote
  | initialMaxStreamDataUni | initialMaxStreamsBidi | initialMaxStreamsUni | ackDelayExponent
  | maxAckDelay | preferredAddress | activeConnectionIdLimit | initialSourceConnectionId
  | retrySourceConnectionId | maxDatagramFrameSize | minAckDelay | ackReceiveTimestampsEnabled
  | maxReceiveTimestampsPerAck | receiveTimestampsExponent | streamGroupsEnabled
  | knobFramesSupported
  deriving DecidableEq

def TransportParameterId.code : TransportParameterId → Nat
  | .originalDestinationConnectionId => 0x0000
  | .idleTimeout => 0x0001
  | .statelessResetToken => 0x0002
  | .maxPacketSize => 0x0003
  | .initialMaxData => 0x0004
  | .initialMaxStreamDataBidiLocal => 0x0005
  | .initialMaxStreamDataBidiRemote => 0x0006
  | .initialMaxStreamDataUni => 0x0007
  | .initialMaxStreamsBidi => 0x0008
  | .initialMaxStreamsUni => 0x0009
  | .ackDelayExponent => 0x000a
  | .maxAckDelay => 0x000b
  | .preferredAddress => 0x000d
  | .activeConnectionIdLimit => 0x000e
  | .initialSourceConnectionId => 0x000f
  | .retrySourceConnectionId => 0x0010
  | .maxDatagramFrameSize => 0x0020
  | .minAckDelay => 0xff04de1a
  | .ackReceiveTimestampsEnabled => 0xff0a001
  | .maxReceiveTimestampsPerAck => 0xff0a002
  | .receiveTimestampsExponent => 0xff0a003
  | .streamGroupsEnabled => 0x0000ff99
  | .knobFramesSupported => 0x00005178

structure TransportParameter where
  parameter : Nat
  value : Bytes

/-- How the connection is left. -/
inductive ParameterFault where
  | transport (message : String) (code : TransportErrorCode)
  | runtimeError (message : String)
  | emptyOptional  -- `folly::Optional::value` on `none`
  deriving DecidableEq

abbrev ParameterResult := Except ParameterFault

def findParameter (parameters : List TransportParameter) (id : TransportParameterId) :
    Option TransportParameter :=
  parameters.find? fun parameter => parameter.parameter == id.code

def getIntegerParameter (parameters : List TransportParameter) (id : TransportParameterId) :
    ParameterResult (Option Nat) :=
  match findParameter parameters id with
  | none => .ok none
  | some parameter =>
      match decodeQuicInteger parameter.value sizeofUint64 with
      | none => .error (.transport ("Failed to decode integer from TransportParameterId: " ++
          toString id.code) .transportParameterError)
      | some (value, _) => .ok (some value)

def getConnIdParameter (parameters : List TransportParameter) (id : TransportParameterId) :
    ParameterResult (Option Bytes) :=
  match findParameter parameters id with
  | none => .ok none
  | some parameter =>
      if parameter.value.length > kMaxConnectionIdSize then
        .error (.runtimeError "ConnectionId invalid size")
      else .ok (some parameter.value)

def getStatelessResetTokenParameter (parameters : List TransportParameter) :
    ParameterResult (Option Bytes) :=
  match findParameter parameters .statelessResetToken with
  | none => .ok none
  | some parameter =>
      if parameter.value.length ≠ kStatelessResetTokenLength then
        .error (.transport "Invalid reset token" .transportParameterError)
      else .ok (some parameter.value)

/-! ### The connection -/

/-- The parameters that the read codec was made with, and the connection IDs it knows. The exponent
is an 8-bit field. -/
structure ReadCodec where
  peerAckDelayExponent : UInt8
  version : QuicVersion
  receiveTimestampsExponent : Option Nat
  clientConnectionId : Option Bytes
  serverConnectionId : Option Bytes

/-- What a decoder is given for a packet. -/
def ReadCodec.parameters (codec : ReadCodec) (longHeader : Bool) (wideShift : Nat → Nat → Nat) :
    CodecParameters :=
  ⟨longHeader, codec.peerAckDelayExponent.toNat, codec.receiveTimestampsExponent, wideShift⟩

/-- `initialReceived` is true when an Initial packet has been processed: the Initial ack state has a
largest received packet, or is gone. `advertised` is a history: the exponent in the transport
parameters that were accepted. -/
structure ExponentConn where
  version : Option QuicVersion
  originalVersion : QuicVersion
  clientConnectionId : Option Bytes
  serverConnectionId : Option Bytes
  originalDestinationConnectionId : Option Bytes
  receiveTimestampsExponent : Option Nat
  peerAckDelayExponent : Nat
  readCodec : Option ReadCodec
  initialReceived : Bool
  retryToken : Bytes
  advertised : Option Nat

def kMaxAckDelayExponent : Nat := 20
def kMaxAckDelay : Nat := 2 ^ 14
def kMinMaxUDPPayload : Nat := 1200

def rejectIf (c : Bool) (message : String) (code : TransportErrorCode) : ParameterResult Unit :=
  if c then .error (.transport message code) else .ok ()

/-- A parameter that is present and not zero. -/
def isNonZero : Option Nat → Bool
  | none => false
  | some value => value != 0

def exceeds (limit : Nat) : Option Nat → Bool
  | none => false
  | some value => decide (value > limit)

namespace ExponentConn

def checksConnectionIds (conn : ExponentConn) : Bool :=
  conn.version == some .quicDraft || conn.version == some .quicV1 ||
    conn.version == some .quicV1Alias

/-- `readCodec->getClientConnectionId()`, and the same for the server. -/
def codecConnectionId (conn : ExponentConn) (which : ReadCodec → Option Bytes) :
    ParameterResult Bytes :=
  match conn.readCodec.bind which with
  | none => .error .emptyOptional
  | some id => .ok id

def checkClientConnectionId (conn : ExponentConn) (clientParams : List TransportParameter) :
    ParameterResult Unit :=
  if conn.checksConnectionIds then do
    let initialSourceConnId ← getConnIdParameter clientParams .initialSourceConnectionId
    let expected ← (if initialSourceConnId.isSome then
      conn.codecConnectionId ReadCodec.clientConnectionId else pure [])
    rejectIf (initialSourceConnId != some expected) "Initial CID does not match."
      .transportParameterError
  else pure ()

def checkServerConnectionIds (conn : ExponentConn) (serverParams : List TransportParameter) :
    ParameterResult Unit :=
  if conn.checksConnectionIds then do
    let initialSourceConnId ← getConnIdParameter serverParams .initialSourceConnectionId
    let originalDestinationConnId ←
      getConnIdParameter serverParams .originalDestinationConnectionId
    let expected ← (if initialSourceConnId.isSome && originalDestinationConnId.isSome then
      conn.codecConnectionId ReadCodec.serverConnectionId else pure [])
    rejectIf (initialSourceConnId.isNone || originalDestinationConnId.isNone ||
        initialSourceConnId != some expected ||
        originalDestinationConnId != conn.originalDestinationConnectionId)
      "Initial CID does not match." .transportParameterError
  else pure ()

/-- The largest numbers of streams are handed to the stream manager, which may refuse them. -/
def setMaxLocalStreams (maxStreams : Option Nat) : ParameterResult Unit :=
  rejectIf (decide (maxStreams.getD 0 > kMaxMaxStreams))
    "Attempt to set maxStreams beyond the max allowed." .streamLimitError

def setPeerAckDelayExponent (conn : ExponentConn) (ackDelayExponent : Option Nat) :
    ParameterResult ExponentConn := do
  rejectIf (exceeds kMaxAckDelayExponent ackDelayExponent) "ack_delay_exponent too large"
    .transportParameterError
  return { conn with
    peerAckDelayExponent := ackDelayExponent.getD kDefaultAckDelayExponent
    advertised := some (ackDelayExponent.getD kDefaultAckDelayExponent) }

def checkMaxDatagramFrameSize (maxDatagramFrameSize : Option Nat) : ParameterResult Unit :=
  rejectIf (isNonZero maxDatagramFrameSize && !exceeds kMaxDatagramPacketOverhead maxDatagramFrameSize)
    "max_datagram_frame_size too small" .transportParameterError

def maxPacketSizeTooSmall (packetSize : Nat) : String :=
  "Max packet size too small. received max_packetSize = " ++ toString packetSize

/-- The server's side. Besides the exponent the parameters set fields that are not read here. -/
def processClientInitialParams (conn : ExponentConn) (clientParams : List TransportParameter) :
    ParameterResult ExponentConn := do
  let get := getIntegerParameter clientParams
  let preferredAddress ← get .preferredAddress
  let origConnId ← get .originalDestinationConnectionId
  let statelessResetToken ← get .statelessResetToken
  let retrySourceConnId ← get .retrySourceConnectionId
  let _ ← [.initialMaxData, .initialMaxStreamDataBidiLocal, .initialMaxStreamDataBidiRemote,
    .initialMaxStreamDataUni].mapM get
  let maxStreamsBidi ← get .initialMaxStreamsBidi
  let maxStreamsUni ← get .initialMaxStreamsUni
  let _ ← get .idleTimeout
  let ackDelayExponent ← get .ackDelayExponent
  let packetSize ← get .maxPacketSize
  let _ ← [.activeConnectionIdLimit, .minAckDelay].mapM get
  let maxAckDelay ← get .maxAckDelay
  let maxDatagramFrameSize ← get .maxDatagramFrameSize
  let _ ← [.streamGroupsEnabled, .ackReceiveTimestampsEnabled, .maxReceiveTimestampsPerAck,
    .receiveTimestampsExponent].mapM get
  conn.checkClientConnectionId clientParams
  let _ ← get .knobFramesSupported
  rejectIf (isNonZero preferredAddress) "Preferred Address is received by server"
    .transportParameterError
  rejectIf (isNonZero origConnId) "OriginalDestinationConnectionId is received by server"
    .transportParameterError
  rejectIf (isNonZero statelessResetToken) "Stateless Reset Token is received by server"
    .transportParameterError
  rejectIf (isNonZero retrySourceConnId) "Retry Source Connection ID is received by server"
    .transportParameterError
  rejectIf (exceeds (kMaxAckDelay - 1) maxAckDelay) "Max Ack Delay is greater than 2^14 "
    .transportParameterError
  rejectIf (packetSize.isSome && !exceeds (kMinMaxUDPPayload - 1) packetSize)
    (maxPacketSizeTooSmall (packetSize.getD 0)) .transportParameterError
  setMaxLocalStreams maxStreamsBidi
  setMaxLocalStreams maxStreamsUni
  let conn ← conn.setPeerAckDelayExponent ackDelayExponent
  checkMaxDatagramFrameSize maxDatagramFrameSize
  return conn

/-- The client's side. A packet size of zero counts as none. -/
def processServerInitialParams (conn : ExponentConn) (serverParams : List TransportParameter) :
    ParameterResult ExponentConn := do
  let get := getIntegerParameter serverParams
  let _ ← [.initialMaxData, .initialMaxStreamDataBidiLocal, .initialMaxStreamDataBidiRemote,
    .initialMaxStreamDataUni, .idleTimeout].mapM get
  let maxStreamsBidi ← get .initialMaxStreamsBidi
  let maxStreamsUni ← get .initialMaxStreamsUni
  let ackDelayExponent ← get .ackDelayExponent
  let packetSize ← get .maxPacketSize
  let _ ← getStatelessResetTokenParameter serverParams
  let _ ← get .activeConnectionIdLimit
  let maxDatagramFrameSize ← get .maxDatagramFrameSize
  let _ ← [.streamGroupsEnabled, .minAckDelay, .ackReceiveTimestampsEnabled,
    .maxReceiveTimestampsPerAck, .receiveTimestampsExponent, .knobFramesSupported].mapM get
  conn.checkServerConnectionIds serverParams
  rejectIf (isNonZero packetSize && !exceeds (kMinMaxUDPPayload - 1) packetSize)
    (maxPacketSizeTooSmall (packetSize.getD 0)) .transportParameterError
  setMaxLocalStreams maxStreamsBidi
  setMaxLocalStreams maxStreamsUni
  let conn ← conn.setPeerAckDelayExponent ackDelayExponent
  checkMaxDatagramFrameSize maxDatagramFrameSize
  return conn

/-! ### Steps -/

/-- `QuicReadCodec` with the parameters of the connection as it is now. -/
def newReadCodec (conn : ExponentConn) (version : QuicVersion)
    (clientConnectionId serverConnectionId : Option Bytes) : ReadCodec where
  peerAckDelayExponent := UInt8.ofNat conn.peerAckDelayExponent
  version := version
  receiveTimestampsExponent := conn.receiveTimestampsExponent
  clientConnectionId := clientConnectionId
  serverConnectionId := serverConnectionId

/-- The server has a codec from the first packet on. -/
def onFirstPacket (conn : ExponentConn) (version : QuicVersion)
    (clientConnectionId serverConnectionId : Bytes) : ExponentConn :=
  if conn.readCodec.isSome then conn
  else { conn with
    version := some version
    clientConnectionId := some clientConnectionId
    serverConnectionId := some serverConnectionId
    readCodec := some (conn.newReadCodec version clientConnectionId serverConnectionId) }

/-- The client learns the server's connection ID, and the version is settled. -/
def onInitialPacket (conn : ExponentConn) (sourceConnId : Bytes) : ExponentConn :=
  { conn with
    version := conn.version.or (some conn.originalVersion)
    initialReceived := true
    serverConnectionId := conn.serverConnectionId.or (some sourceConnId)
    readCodec := if conn.serverConnectionId.isSome then conn.readCodec
      else conn.readCodec.map fun codec => { codec with serverConnectionId := some sourceConnId } }

/-- The new connection has the defaults, but its codec the exponent of the old connection. -/
def undoAllClientStateForRetry (conn : ExponentConn) : ExponentConn :=
  { conn with
    peerAckDelayExponent := kDefaultAckDelayExponent
    readCodec := some (conn.newReadCodec conn.originalVersion conn.clientConnectionId none)
    initialReceived := false
    retryToken := []
    advertised := none }

def onRetryPacket (conn : ExponentConn) (token : Bytes) : ExponentConn :=
  if conn.initialReceived || !conn.retryToken.isEmpty then conn
  else { conn.undoAllClientStateForRetry with retryToken := token }

def setSupportedVersions (conn : ExponentConn) (version : QuicVersion) : ExponentConn :=
  { conn with
    originalVersion := version
    readCodec := conn.readCodec.map fun codec => { codec with version := version } }

end ExponentConn

/-- What happens to a connection. `keysDerived` is the derivation of the 1-RTT write key, at which the
parameters of the peer are taken; on the client without it if 0-RTT was accepted. -/
inductive ExponentEvent where
  | firstPacket (version : QuicVersion) (clientConnectionId serverConnectionId : Bytes)
  | initialPacket (sourceConnId : Bytes)
  | keysDerived (params : List TransportParameter)
  | retryPacket (token : Bytes)
  | setSupportedVersions (version : QuicVersion)

namespace ExponentConn

/-- The handshake derives the key once, out of crypto data; the first of it is in an Initial packet,
for which there has to be a codec. -/
def keysDerived (process : ExponentConn → List TransportParameter → ParameterResult ExponentConn)
    (conn : ExponentConn) (params : List TransportParameter) : ParameterResult ExponentConn :=
  if conn.readCodec.isNone || !conn.initialReceived then .ok conn
  else if conn.advertised.isSome then
    .error (.transport "Duplicate 1-rtt write cipher" .cryptoError)
  else process conn params

def serverStep (conn : ExponentConn) : ExponentEvent → ParameterResult ExponentConn
  | .firstPacket version clientConnectionId serverConnectionId =>
      .ok (conn.onFirstPacket version clientConnectionId serverConnectionId)
  | .initialPacket _ => .ok { conn with initialReceived := true }
  | .keysDerived params => conn.keysDerived processClientInitialParams params
  | .retryPacket _ | .setSupportedVersions _ => .ok conn

def clientStep (conn : ExponentConn) : ExponentEvent → ParameterResult ExponentConn
  | .firstPacket _ _ _ => .ok conn
  | .initialPacket sourceConnId => .ok (conn.onInitialPacket sourceConnId)
  | .keysDerived params => conn.keysDerived processServerInitialParams params
  | .retryPacket token => .ok (conn.onRetryPacket token)
  | .setSupportedVersions version => .ok (conn.setSupportedVersions version)

def step : QuicNodeType → ExponentConn → ExponentEvent → ParameterResult ExponentConn
  | .server => serverStep
  | .client => clientStep

/-- A connection as it is made. The client makes its codec in the constructor. -/
def new (nodeType : QuicNodeType) (originalVersion : QuicVersion)
    (clientConnectionId originalDestinationConnectionId : Bytes)
    (receiveTimestampsExponent : Option Nat) : ExponentConn :=
  let conn : ExponentConn := {
    version := none
    originalVersion := originalVersion
    clientConnectionId := some clientConnectionId
    serverConnectionId := none
    originalDestinationConnectionId := some originalDestinationConnectionId
    receiveTimestampsExponent := receiveTimestampsExponent
    peerAckDelayExponent := kDefaultAckDelayExponent
    readCodec := none
    initialReceived := false
    retryToken := []
    advertised := none }
  match nodeType with
  | .server => conn
  | .client => { conn with
      readCodec := some (conn.newReadCodec originalVersion (some clientConnectionId) none) }

/-! ### Runs -/

/-- The codec has the default exponent. The connection has it as well until the parameters of the
peer are accepted, after which no Retry packet is taken. -/
structure Inv (conn : ExponentConn) : Prop where
  codec : ∀ codec, conn.readCodec = some codec →
    codec.peerAckDelayExponent.toNat = kDefaultAckDelayExponent
  before : conn.advertised = none → conn.peerAckDelayExponent = kDefaultAckDelayExponent
  after : conn.advertised.isSome = true →
    conn.readCodec.isSome = true ∧ conn.initialReceived = true
  accepted : ∀ exponent, conn.advertised = some exponent → exponent ≤ kMaxAckDelayExponent

theorem Inv.newReadCodec {conn : ExponentConn} (h : conn.Inv) (hnone : conn.advertised = none)
    (version : QuicVersion) (clientConnectionId serverConnectionId : Option Bytes) :
    (conn.newReadCodec version clientConnectionId serverConnectionId).peerAckDelayExponent.toNat =
      kDefaultAckDelayExponent := by
  change (UInt8.ofNat conn.peerAckDelayExponent).toNat = _
  rw [h.before hnone]
  rfl

theorem inv_new (nodeType : QuicNodeType) (originalVersion : QuicVersion)
    (clientConnectionId originalDestinationConnectionId : Bytes)
    (receiveTimestampsExponent : Option Nat) :
    (new nodeType originalVersion clientConnectionId originalDestinationConnectionId
      receiveTimestampsExponent).Inv := by
  cases nodeType with
  | server => constructor <;> simp [new]
  | client =>
    refine ⟨?_, fun _ => rfl, by simp [new], by simp [new]⟩
    intro codec hcodec
    cases hcodec
    rfl

/-- What accepted parameters change. -/
def Advertises (conn : ExponentConn) (params : List TransportParameter) (conn' : ExponentConn) :
    Prop :=
  ∃ exponent, getIntegerParameter params .ackDelayExponent = .ok exponent ∧
    exponent.getD kDefaultAckDelayExponent ≤ kMaxAckDelayExponent ∧ conn' = { conn with
      peerAckDelayExponent := exponent.getD kDefaultAckDelayExponent
      advertised := some (exponent.getD kDefaultAckDelayExponent) }

theorem Advertises.of_set {conn conn' : ExponentConn} {params : List TransportParameter}
    {exponent : Option Nat} (hget : getIntegerParameter params .ackDelayExponent = .ok exponent)
    (h : conn.setPeerAckDelayExponent exponent = .ok conn') : Advertises conn params conn' := by
  refine ⟨exponent, hget, ?_⟩
  unfold setPeerAckDelayExponent rejectIf at h
  split at h
  · cases h
  · rename_i hexceeds
    refine ⟨?_, (Except.ok.inj h).symm⟩
    cases exponent with
    | none => decide
    | some value => exact Nat.le_of_not_lt (by simpa [exceeds] using hexceeds)

theorem processClientInitialParams_ok {conn conn' : ExponentConn} {params : List TransportParameter}
    (h : processClientInitialParams conn params = .ok conn') : Advertises conn params conn' := by
  simp only [processClientInitialParams, except_bind_eq_ok] at h
  obtain ⟨_, -, _, -, _, -, _, -, _, -, _, -, _, -, _, -, exponent, hget, _, -, _, -, _, -, _, -, _, -,
    _, -, _, -, _, -, _, -, _, -, _, -, _, -, _, -, _, -, _, -, conn₁, hset, _, -, hreturn⟩ := h
  cases hreturn
  exact .of_set hget hset

theorem processServerInitialParams_ok {conn conn' : ExponentConn} {params : List TransportParameter}
    (h : processServerInitialParams conn params = .ok conn') : Advertises conn params conn' := by
  simp only [processServerInitialParams, except_bind_eq_ok] at h
  obtain ⟨_, -, _, -, _, -, exponent, hget, _, -, _, -, _, -, _, -, _, -, _, -, _, -, _, -, _, -, conn₁,
    hset, _, -, hreturn⟩ := h
  cases hreturn
  exact .of_set hget hset

theorem keysDerived_ok {process : ExponentConn → List TransportParameter → ParameterResult ExponentConn}
    (hprocess : ∀ {conn conn' params}, process conn params = .ok conn' → Advertises conn params conn')
    {conn conn' : ExponentConn} {params : List TransportParameter}
    (h : conn.keysDerived process params = .ok conn') :
    conn' = conn ∨ conn.readCodec.isSome = true ∧ conn.initialReceived = true ∧
      Advertises conn params conn' := by
  unfold keysDerived at h
  split at h
  · exact .inl (Except.ok.inj h).symm
  · rename_i hready
    split at h
    · cases h
    · simp only [Bool.or_eq_true, not_or, Bool.not_eq_true', Bool.not_eq_false,
        Bool.not_eq_true, Option.isNone_eq_false_iff] at hready
      exact .inr ⟨hready.1, hready.2, hprocess h⟩

theorem Inv.advertises {conn conn' : ExponentConn} {params : List TransportParameter} (h : conn.Inv)
    (hcodec : conn.readCodec.isSome = true) (hinitial : conn.initialReceived = true)
    (hadvertises : Advertises conn params conn') : conn'.Inv := by
  obtain ⟨exponent, -, hle, rfl⟩ := hadvertises
  refine ⟨h.codec, fun hnone => (by cases hnone), fun _ => ⟨hcodec, hinitial⟩, fun e he => ?_⟩
  cases he
  exact hle

theorem Inv.onFirstPacket {conn : ExponentConn} (h : conn.Inv) (version : QuicVersion)
    (clientConnectionId serverConnectionId : Bytes) :
    (conn.onFirstPacket version clientConnectionId serverConnectionId).Inv := by
  unfold ExponentConn.onFirstPacket
  split
  · exact h
  · rename_i hcodec
    have hnone : conn.advertised = none := by
      cases hadvertised : conn.advertised with
      | none => rfl
      | some exponent => exact absurd (h.after (by rw [hadvertised]; rfl)).1 hcodec
    refine ⟨fun codec hnew => ?_, h.before, fun hsome => ?_, h.accepted⟩
    · cases hnew
      exact h.newReadCodec hnone _ _ _
    · rw [hnone] at hsome
      cases hsome

theorem Inv.onInitialPacket {conn : ExponentConn} (h : conn.Inv) (sourceConnId : Bytes) :
    (conn.onInitialPacket sourceConnId).Inv := by
  refine ⟨fun codec hcodec => ?_, h.before, fun hsome => ⟨?_, rfl⟩, h.accepted⟩
  · unfold ExponentConn.onInitialPacket at hcodec
    dsimp only at hcodec
    split at hcodec
    · exact h.codec codec hcodec
    · obtain ⟨old, hold, rfl⟩ := Option.map_eq_some_iff.mp hcodec
      exact h.codec old hold
  · have hcodec := (h.after hsome).1
    unfold ExponentConn.onInitialPacket
    dsimp only
    split
    · exact hcodec
    · rwa [Option.isSome_map]

theorem Inv.onRetryPacket {conn : ExponentConn} (h : conn.Inv) (token : Bytes) :
    (conn.onRetryPacket token).Inv := by
  unfold ExponentConn.onRetryPacket
  split
  · exact h
  · rename_i hfresh
    have hnone : conn.advertised = none := by
      cases hadvertised : conn.advertised with
      | none => rfl
      | some exponent =>
        rw [(h.after (by rw [hadvertised]; rfl)).2] at hfresh
        exact absurd rfl hfresh
    refine ⟨fun codec hnew => ?_, fun _ => rfl, fun hsome => (by cases hsome),
      fun _ he => (by cases he)⟩
    cases hnew
    exact h.newReadCodec hnone _ _ _

theorem Inv.setSupportedVersions {conn : ExponentConn} (h : conn.Inv) (version : QuicVersion) :
    (conn.setSupportedVersions version).Inv := by
  refine ⟨fun codec hcodec => ?_, h.before, fun hsome => ⟨?_, (h.after hsome).2⟩, h.accepted⟩
  · obtain ⟨old, hold, rfl⟩ := Option.map_eq_some_iff.mp hcodec
    exact h.codec old hold
  · change (conn.readCodec.map _).isSome = true
    rw [Option.isSome_map]
    exact (h.after hsome).1

theorem inv_step (nodeType : QuicNodeType) (conn : ExponentConn) (e : ExponentEvent)
    (conn' : ExponentConn) (h : conn.Inv) (hstep : step nodeType conn e = .ok conn') :
    conn'.Inv := by
  cases nodeType with
  | server =>
    cases e with
    | firstPacket version clientConnectionId serverConnectionId =>
      cases hstep
      exact h.onFirstPacket _ _ _
    | initialPacket sourceConnId =>
      cases hstep
      exact ⟨h.codec, h.before, fun hsome => ⟨(h.after hsome).1, rfl⟩, h.accepted⟩
    | keysDerived params =>
      rcases keysDerived_ok processClientInitialParams_ok hstep with
        rfl | ⟨hcodec, hinitial, hadvertises⟩
      · exact h
      · exact h.advertises hcodec hinitial hadvertises
    | retryPacket token =>
      cases hstep
      exact h
    | setSupportedVersions version =>
      cases hstep
      exact h
  | client =>
    cases e with
    | firstPacket version clientConnectionId serverConnectionId =>
      cases hstep
      exact h
    | initialPacket sourceConnId =>
      cases hstep
      exact h.onInitialPacket _
    | keysDerived params =>
      rcases keysDerived_ok processServerInitialParams_ok hstep with
        rfl | ⟨hcodec, hinitial, hadvertises⟩
      · exact h
      · exact h.advertises hcodec hinitial hadvertises
    | retryPacket token =>
      cases hstep
      exact h.onRetryPacket _
    | setSupportedVersions version =>
      cases hstep
      exact h.setSupportedVersions _

theorem inv_run {nodeType : QuicNodeType} {conn conn' : ExponentConn} {es : List ExponentEvent}
    (h : conn.Inv) (hrun : es.foldlM (step nodeType) conn = .ok conn') : conn'.Inv :=
  run_invariant (inv_step nodeType) h hrun

end ExponentConn

/-! ### Delays -/

/-- The amounts that a delay is shifted by. -/
def delayShifts (exponent : Nat) : List Nat := [(64 + 2 ^ 8 - exponent % 2 ^ 8) % 2 ^ 8, exponent]

/-- The ACK frame in `bytes` is read with the delay `v * 2 ^ e`, or none if that is too long, or is
refused if the delay does not fit. -/
def ReadsDelay (p : CodecParameters) (bytes : Bytes) (v e : Nat) : Prop :=
  ∀ queue rest, queue.bytes = 0x02 :: bytes ++ rest →
    if v * 2 ^ e ≤ 2 ^ 63 - 1 then
      ∃ frame queue', parseFrame p queue = .ok ⟨.ack frame none, queue', false⟩ ∧
        frame.ackDelay = if v * 2 ^ e > 1000 * 1000 * 1000 then 0 else v * 2 ^ e
    else ∃ message, parseFrame p queue = .error (.transport message .frameEncodingError (some 0x02))

/-- The delays of a peer with the exponent `e` are read as they were meant. -/
structure ReadCodec.InterpretsDelays (codec : ReadCodec) (e : Nat) : Prop where
  exponent : codec.peerAckDelayExponent.toNat = e
  shifts : ∀ shift ∈ delayShifts codec.peerAckDelayExponent.toNat, shift < 64
  reads : ∀ wideShift v largest added bytes, v < 2 ^ 62 → largest.endPacket < 2 ^ 62 →
    largest.startPacket ≤ largest.endPacket → BlocksBelow largest.startPacket added →
    Format.Many Varint (ackFieldInts v largest added) bytes →
    ReadsDelay (codec.parameters false wideShift) bytes v e

section Read

variable {p : CodecParameters} {e v : Nat} {largest : AckBlock} {added : List AckBlock}
  {bytes : Bytes}

theorem parseFrame_of_exception {code : Nat} {type e rest : Bytes} {frameType : FrameType}
    {r : FrameReader QuicFrame} {queue : BufQueue} {what : String} (htype : Varint code type)
    (hcode : FrameType.ofCode code = some frameType)
    (hdecode : ∀ queue, decodeFrame p queue frameType = overCursor queue r)
    (hr : Faults r e (.exception what)) (hqueue : queue.bytes = type ++ (e ++ rest)) :
    ∃ message, parseFrame p queue = .error (.transport message .frameEncodingError (some code)) := by
  obtain ⟨trimmed, hbytes, hparse⟩ := parseFrame_of_type p htype hqueue
  have hover : decodeFrame p trimmed frameType = .error (.exception what) := by
    rw [hdecode, overCursor, hbytes, hr rest]
    rfl
  rw [hparse, parseTypedFrame, hcode]
  dsimp only
  rw [hover]
  exact ⟨_, rfl⟩

theorem readsDelay_of_exponent (hexponent : p.ackDelayExponentToUse = e) (hlow : 1 ≤ e)
    (hhigh : e < 64) (hv : v < 2 ^ 62) (hinterval : largest.startPacket ≤ largest.endPacket)
    (hbelow : BlocksBelow largest.startPacket added)
    (hbytes : Format.Many Varint (ackFieldInts v largest added) bytes) : ReadsDelay p bytes v e := by
  have htype : Varint 0x02 [0x02] := encodeQuicInteger_varint rfl
  intro queue rest hqueue
  rw [List.cons_append, ← List.singleton_append] at hqueue
  by_cases hfits : v * 2 ^ e ≤ 2 ^ 63 - 1
  · rw [if_pos hfits]
    obtain ⟨frame, hframe, -, -, hdelay⟩ :=
      accepts_decodeAckFrame hbelow hinterval hbytes hexponent hlow hhigh hfits
    obtain ⟨queue', hparse, -⟩ := parseFrame_of_accepts htype
      (show FrameType.ofCode 0x02 = some .ack from rfl) (fun _ => rfl) rfl
      (hframe.map (QuicFrame.ack · none)) hqueue
    exact ⟨frame, queue', hparse, hdelay⟩
  · rw [if_neg hfits]
    have hfaults := faults_decodeAckFrame (p := p) hinterval hbytes hexponent hlow hhigh
      (by omega) (Nat.lt_of_not_le hfits)
    exact parseFrame_of_exception htype (show FrameType.ofCode 0x02 = some .ack from rfl)
      (fun _ => rfl) (hfaults.map _) hqueue

end Read

/-- After the parameters of the peer have been accepted, its delays are read as they were meant
exactly if it advertised the default exponent. -/
theorem ackDelay_interpreted_iff (nodeType : QuicNodeType) (originalVersion : QuicVersion)
    (clientConnectionId originalDestinationConnectionId : Bytes)
    (receiveTimestampsExponent : Option Nat) (es : List ExponentEvent) (conn : ExponentConn)
    (e : Nat)
    (hrun : es.foldlM (ExponentConn.step nodeType) (.new nodeType originalVersion clientConnectionId
      originalDestinationConnectionId receiveTimestampsExponent) = .ok conn)
    (hadvertised : conn.advertised = some e) :
    (∃ codec, conn.readCodec = some codec ∧ codec.InterpretsDelays e) ↔
      e = kDefaultAckDelayExponent := by
  have hinv := ExponentConn.inv_run (ExponentConn.inv_new _ _ _ _ _) hrun
  constructor
  · rintro ⟨codec, hcodec, hinterprets⟩
    rw [← hinterprets.exponent, hinv.codec codec hcodec]
  · rintro rfl
    have hsome := (hinv.after (by rw [hadvertised]; rfl)).1
    obtain ⟨codec, hcodec⟩ := Option.isSome_iff_exists.mp hsome
    have hexponent := hinv.codec codec hcodec
    refine ⟨codec, hcodec, hexponent, ?_, ?_⟩
    · rw [hexponent]
      decide
    · intro wideShift v largest added bytes hv _ hinterval hbelow hbytes
      exact readsDelay_of_exponent hexponent (by decide) (by decide) hv hinterval hbelow hbytes

/-- A peer that advertises no exponent has the default. -/
theorem ackDelay_interpreted_default :
    ∃ conn, [.firstPacket .mvfst [7] [8], .initialPacket [7], .keysDerived []].foldlM
        (ExponentConn.step .server) (.new .server .mvfst [] [] none) = .ok conn ∧
      conn.advertised = some 3 ∧ ∃ codec, conn.readCodec = some codec ∧ codec.InterpretsDelays 3 := by
  have hrun : ∃ conn, [.firstPacket .mvfst [7] [8], .initialPacket [7], .keysDerived []].foldlM
      (ExponentConn.step .server) (.new .server .mvfst [] [] none) = .ok conn ∧
        conn.advertised = some 3 := ⟨_, rfl, rfl⟩
  obtain ⟨conn, hrun, hadvertised⟩ := hrun
  exact ⟨conn, hrun, hadvertised, (ackDelay_interpreted_iff .server .mvfst [] [] none _ conn 3 hrun
    hadvertised).mpr rfl⟩

/-- The peer advertises 5 and sends 25 for 800 microseconds; 200 are read. -/
theorem ackDelay_misread :
    ∃ conn codec frame queue, [.firstPacket .mvfst [7] [8], .initialPacket [7],
        .keysDerived [⟨0x0a, [5]⟩]].foldlM (ExponentConn.step .server)
          (.new .server .mvfst [] [] none) = .ok conn ∧
      conn.advertised = some 5 ∧ conn.readCodec = some codec ∧
      parseFrame (codec.parameters false fun _ _ => 0)
        ⟨some (.wrapBuffer [0x02, 0, 25, 0, 0]), 5, rfl⟩ = .ok ⟨.ack frame none, queue, false⟩ ∧
      frame.ackDelay = 200 ∧ 25 * 2 ^ 5 = 800 ∧ ¬ codec.InterpretsDelays 5 := by
  have hread : ∃ frame queue, parseFrame ⟨false, 3, none, fun _ _ => 0⟩
      ⟨some (.wrapBuffer [0x02, 0, 25, 0, 0]), 5, rfl⟩ = .ok ⟨.ack frame none, queue, false⟩ ∧
        frame.ackDelay = 200 := ⟨_, _, rfl, rfl⟩
  obtain ⟨frame, queue, hparse, hdelay⟩ := hread
  exact ⟨_, ⟨3, .mvfst, none, some [7], some [8]⟩, frame, queue, rfl, rfl, rfl, hparse, hdelay, rfl,
    fun h => absurd h.exponent (by decide)⟩

end MasqueQuic
