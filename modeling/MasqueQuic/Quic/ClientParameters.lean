/-
The limits a client sends within, before and after the server's transport parameters
(`processServerInitialParams` and `updateTransportParamsFromCachedEarlyParams` of
`quic/client/state/ClientStateMachine.cpp`, the constructor of `QuicStreamState`).

A client opens streams before the handshake is complete. Such a stream starts with the limit the
server advertised in the session that is resumed, or with none. When the parameters of the server
come in, every stream is given a new limit, and that is taken from this endpoint's own settings:
the window that it grants the server on a stream of this kind, not the one that it was granted.
So the limits are those of the server exactly where the two windows make no difference
(`streamLimits_from_server_iff`).
-/

import MasqueQuic.Quic.AckDelayExponent
import MasqueQuic.Quic.FinalSize
import MasqueQuic.Quic.PacketBuilders

namespace MasqueQuic

def kMaxIdleTimeout : Nat := 600000

def kDefaultActiveConnectionIdLimit : Nat := 5

def kMaxReceivedPktsTimestampsStored : Nat := 25

def kDefaultMaxUDPPayload : Nat := 1472

/-- The peer's limits, on the connection and for new streams. -/
structure PeerFlowControl where
  peerAdvertisedMaxOffset : Nat
  peerAdvertisedInitialMaxStreamOffsetBidiLocal : Nat
  peerAdvertisedInitialMaxStreamOffsetBidiRemote : Nat
  peerAdvertisedInitialMaxStreamOffsetUni : Nat
  deriving DecidableEq

structure CachedServerTransportParameters where
  idleTimeout : Nat
  initialMaxData : Nat
  initialMaxStreamDataBidiLocal : Nat
  initialMaxStreamDataBidiRemote : Nat
  initialMaxStreamDataUni : Nat
  initialMaxStreamsBidi : Nat
  initialMaxStreamsUni : Nat
  knobFrameSupport : Bool

inductive ClientFault where
  | parameters (f : ParameterFault)
  | stream (f : StreamFault)
  deriving DecidableEq

def liftParameters {α : Type} (x : ParameterResult α) : Except ClientFault α :=
  x.mapError .parameters

def liftClientStream {α : Type} (x : Except StreamFault α) : Except ClientFault α :=
  x.mapError .stream

/-- What `processServerInitialParams` reads and writes. The part that has to do with the ack delay
exponent and with the connection IDs is `exponent`. `resumed` is a history: the parameters of the
sessions that were resumed. -/
structure ClientConn where
  exponent : ExponentConn
  transportSettings : ReceiveSettings
  canIgnorePathMTU : Bool
  udpSendPacketLen : Nat
  flowControlState : PeerFlowControl
  peerIdleTimeout : Nat
  peerAdvertisedInitialMaxStreamsBidi : Nat
  peerAdvertisedInitialMaxStreamsUni : Nat
  peerMinAckDelay : Option Nat
  peerActiveConnectionIdLimit : Nat
  statelessResetToken : Option Bytes
  maxWriteFrameSize : Nat
  peerAdvertisedMaxStreamGroups : Option Nat
  maybePeerAckReceiveTimestampsConfig : Option (Nat × Nat)
  peerAdvertisedKnobFrameSupport : Bool
  streams : List SendStream
  resumed : List CachedServerTransportParameters

namespace ClientConn

/-- The limit of a new stream. -/
def initialStreamLimit (f : PeerFlowControl) (id : StreamId) : Nat :=
  if isUnidirectionalStream id then f.peerAdvertisedInitialMaxStreamOffsetUni
  else if isLocalStream .client id then f.peerAdvertisedInitialMaxStreamOffsetBidiRemote
  else f.peerAdvertisedInitialMaxStreamOffsetBidiLocal

/-- The `windowSize` of the loop over the streams. -/
def ownWindow (settings : ReceiveSettings) (id : StreamId) : Nat :=
  if isUnidirectionalStream id then settings.advertisedInitialUniStreamWindowSize.toNat
  else if isLocalStream .client id then settings.advertisedInitialBidiLocalStreamWindowSize.toNat
  else settings.advertisedInitialBidiRemoteStreamWindowSize.toNat

def updateTransportParamsFromCachedEarlyParams (conn : ClientConn)
    (params : CachedServerTransportParameters) : Except ClientFault ClientConn := do
  liftParameters (ExponentConn.setMaxLocalStreams (some params.initialMaxStreamsBidi))
  liftParameters (ExponentConn.setMaxLocalStreams (some params.initialMaxStreamsUni))
  return { conn with
    peerIdleTimeout := params.idleTimeout
    flowControlState := {
      peerAdvertisedMaxOffset := params.initialMaxData
      peerAdvertisedInitialMaxStreamOffsetBidiLocal := params.initialMaxStreamDataBidiLocal
      peerAdvertisedInitialMaxStreamOffsetBidiRemote := params.initialMaxStreamDataBidiRemote
      peerAdvertisedInitialMaxStreamOffsetUni := params.initialMaxStreamDataUni }
    peerAdvertisedKnobFrameSupport := params.knobFrameSupport
    resumed := params :: conn.resumed }

/-- The packet size that is used: one that is missing, zero or too large is replaced. -/
def sendPacketLen (packetSize : Option Nat) : Nat :=
  match packetSize with
  | none => kDefaultUDPSendPacketLen
  | some size =>
      if size = 0 ∨ size > kDefaultMaxUDPPayload then kDefaultUDPSendPacketLen else size

/-- The loop over the streams. -/
def updateExistingStreams (settings : ReceiveSettings) (streams : List SendStream) :
    Except ClientFault (List SendStream) :=
  streams.mapM fun s => liftClientStream (s.handleStreamWindowUpdate (ownWindow settings s.id))

def processServerInitialParams (conn : ClientConn) (serverParams : List TransportParameter) :
    Except ClientFault ClientConn := do
  let get := fun id => liftParameters (getIntegerParameter serverParams id)
  let maxData ← get .initialMaxData
  let maxStreamDataBidiLocal ← get .initialMaxStreamDataBidiLocal
  let maxStreamDataBidiRemote ← get .initialMaxStreamDataBidiRemote
  let maxStreamDataUni ← get .initialMaxStreamDataUni
  let idleTimeout ← get .idleTimeout
  let maxStreamsBidi ← get .initialMaxStreamsBidi
  let maxStreamsUni ← get .initialMaxStreamsUni
  let ackDelayExponent ← get .ackDelayExponent
  let packetSize ← get .maxPacketSize
  let statelessResetToken ← liftParameters (getStatelessResetTokenParameter serverParams)
  let activeConnectionIdLimit ← get .activeConnectionIdLimit
  let maxDatagramFrameSize ← get .maxDatagramFrameSize
  let peerAdvertisedMaxStreamGroups ← get .streamGroupsEnabled
  let minAckDelay ← get .minAckDelay
  let isAckReceiveTimestampsEnabled ← get .ackReceiveTimestampsEnabled
  let maxReceiveTimestampsPerAck ← get .maxReceiveTimestampsPerAck
  let receiveTimestampsExponent ← get .receiveTimestampsExponent
  let knobFrameSupported ← get .knobFramesSupported
  liftParameters (conn.exponent.checkServerConnectionIds serverParams)
  liftParameters (rejectIf (isNonZero packetSize && !exceeds (kMinMaxUDPPayload - 1) packetSize)
    (ExponentConn.maxPacketSizeTooSmall (packetSize.getD 0)) .transportParameterError)
  liftParameters (ExponentConn.setMaxLocalStreams maxStreamsBidi)
  liftParameters (ExponentConn.setMaxLocalStreams maxStreamsUni)
  let exponent ← liftParameters (conn.exponent.setPeerAckDelayExponent ackDelayExponent)
  let streams ← updateExistingStreams conn.transportSettings conn.streams
  liftParameters (ExponentConn.checkMaxDatagramFrameSize maxDatagramFrameSize)
  return { conn with
    exponent
    udpSendPacketLen :=
      if conn.canIgnorePathMTU then sendPacketLen packetSize else conn.udpSendPacketLen
    flowControlState := {
      peerAdvertisedMaxOffset := maxData.getD 0
      peerAdvertisedInitialMaxStreamOffsetBidiLocal := maxStreamDataBidiLocal.getD 0
      peerAdvertisedInitialMaxStreamOffsetBidiRemote := maxStreamDataBidiRemote.getD 0
      peerAdvertisedInitialMaxStreamOffsetUni := maxStreamDataUni.getD 0 }
    peerIdleTimeout := min (idleTimeout.getD 0) kMaxIdleTimeout
    peerAdvertisedInitialMaxStreamsBidi := maxStreamsBidi.getD 0
    peerAdvertisedInitialMaxStreamsUni := maxStreamsUni.getD 0
    peerMinAckDelay := minAckDelay.or conn.peerMinAckDelay
    peerActiveConnectionIdLimit := activeConnectionIdLimit.getD kDefaultActiveConnectionIdLimit
    statelessResetToken
    maxWriteFrameSize := maxDatagramFrameSize.getD conn.maxWriteFrameSize
    peerAdvertisedMaxStreamGroups :=
      peerAdvertisedMaxStreamGroups.or conn.peerAdvertisedMaxStreamGroups
    maybePeerAckReceiveTimestampsConfig :=
      match isAckReceiveTimestampsEnabled, maxReceiveTimestampsPerAck,
          receiveTimestampsExponent with
      | some 1, some count, some exponent =>
          some (min (count % 2 ^ 8) kMaxReceivedPktsTimestampsStored, exponent % 2 ^ 8)
      | _, _, _ => conn.maybePeerAckReceiveTimestampsConfig
    peerAdvertisedKnobFrameSupport := decide (0 < knobFrameSupported.getD 0)
    streams }

/-! ### Before the handshake is complete -/

/-- A client that has not started yet. -/
def new (exponent : ExponentConn) (transportSettings : ReceiveSettings) (canIgnorePathMTU : Bool) :
    ClientConn where
  exponent
  transportSettings
  canIgnorePathMTU
  udpSendPacketLen := kDefaultUDPSendPacketLen
  flowControlState := ⟨0, 0, 0, 0⟩
  peerIdleTimeout := kMaxIdleTimeout
  peerAdvertisedInitialMaxStreamsBidi := 0
  peerAdvertisedInitialMaxStreamsUni := 0
  peerMinAckDelay := none
  peerActiveConnectionIdLimit := 0
  statelessResetToken := none
  maxWriteFrameSize := kDefaultMaxDatagramFrameSize
  peerAdvertisedMaxStreamGroups := none
  maybePeerAckReceiveTimestampsConfig := none
  peerAdvertisedKnobFrameSupport := false
  streams := []
  resumed := []

/-- What happens before the parameters of the server are known: a session is resumed, Initial and Retry
packets come in, and the application opens its streams, writes to them and resets them; what it writes may be
sent and lost in 0-RTT packets. -/
inductive EarlyEvent where
  | resume (params : CachedServerTransportParameters)
  | initialPacket (sourceConnId : Bytes)
  | retryPacket (token : Bytes)
  | openStream (id : StreamId)
  | writeChain (id : StreamId) (data : Buf) (eof : Bool)
  | resetStream (id : StreamId) (errorCode : Nat)
  | frameSent (id : StreamId) (frame : WriteStreamFrame)
  | frameLost (id : StreamId) (frame : WriteStreamFrame)

/-- The new connection takes over the limits and the streams. -/
def onRetryPacket (conn : ClientConn) (token : Bytes) : ClientConn :=
  if conn.exponent.initialReceived || !conn.exponent.retryToken.isEmpty then conn
  else { conn with
    exponent := conn.exponent.onRetryPacket token
    peerIdleTimeout := kMaxIdleTimeout
    peerAdvertisedKnobFrameSupport := false }

def onStream (conn : ClientConn) (id : StreamId)
    (act : SendStream → Except StreamFault SendStream) : Except ClientFault ClientConn := do
  let streams ← conn.streams.mapM fun s => if s.id = id then liftClientStream (act s) else .ok s
  return { conn with streams }

def openStream (conn : ClientConn) (id : StreamId) : ClientConn :=
  if isLocalStream .client id ∧ id ∉ conn.streams.map (·.id) then
    { conn with
      streams := .new id (initialStreamLimit conn.flowControlState id) .open :: conn.streams }
  else conn

def step (conn : ClientConn) : EarlyEvent → Except ClientFault ClientConn
  | .resume params => conn.updateTransportParamsFromCachedEarlyParams params
  | .initialPacket sourceConnId =>
      .ok { conn with exponent := conn.exponent.onInitialPacket sourceConnId }
  | .retryPacket token => .ok (conn.onRetryPacket token)
  | .openStream id => .ok (conn.openStream id)
  | .writeChain id data eof => conn.onStream id fun s => s.writeChain data eof
  | .resetStream id errorCode => conn.onStream id fun s => (·.1) <$> s.sendRstSMHandler errorCode
  | .frameSent id frame => conn.onStream id fun s => s.frameSent frame
  | .frameLost id frame => conn.onStream id fun s => s.frameLost frame false

end ClientConn

/-! ### Lists of computations -/

/-- What holds of every element and of its result holds along the lists. -/
theorem Ends.mapM {α β φ : Type} {E : φ → Prop} {f : α → Except φ β} {R : α → β → Prop}
    {xs : List α} (hf : ∀ x ∈ xs, Ends E (f x) (R x)) :
    Ends E (xs.mapM f) (List.Forall₂ R xs) := by
  induction xs with
  | nil =>
    rw [List.mapM_nil]
    exact .ok .nil
  | cons x xs ih =>
    obtain ⟨hx, hxs⟩ := List.forall_mem_cons.mp hf
    rw [List.mapM_cons]
    refine Ends.bind hx fun y hy => ?_
    refine Ends.bind (ih hxs) fun ys hys => ?_
    exact .ok (.cons hy hys)

theorem exists_of_forall₂ {α β : Type} {R : α → β → Prop} {xs : List α} {ys : List β}
    (h : List.Forall₂ R xs ys) {y : β} (hy : y ∈ ys) : ∃ x ∈ xs, R x y := by
  induction h with
  | nil => exact absurd hy List.not_mem_nil
  | cons hxy _ ih =>
    cases List.mem_cons.mp hy with
    | inl heq =>
      subst heq
      exact ⟨_, List.mem_cons_self, hxy⟩
    | inr hy =>
      obtain ⟨x, hx, hR⟩ := ih hy
      exact ⟨x, List.mem_cons_of_mem _ hx, hR⟩

namespace SendStream

variable {s : SendStream}

/-- Only the peer moves the limit of a stream. -/
def SameLimit (s t : SendStream) : Prop :=
  t.id = s.id ∧ t.peerAdvertisedMaxOffset = s.peerAdvertisedMaxOffset

theorem SameLimit.refl (s : SendStream) : SameLimit s s := ⟨rfl, rfl⟩

theorem SameLimit.trans {t u : SendStream} (h : SameLimit s t) (h' : SameLimit t u) : SameLimit s u :=
  ⟨h'.1.trans h.1, h'.2.trans h.2⟩

theorem SameLimit.updateWritableStreams {t : SendStream} (h : SameLimit s t) :
    Ends AnyFault t.updateWritableStreams (SameLimit s) := by
  refine (updateWritableStreams_eq t).imp ?_
  rintro _ rfl
  exact h

theorem SameLimit.writeChain (s : SendStream) (data : Buf) (eof : Bool) :
    Ends AnyFault (s.writeChain data eof) (SameLimit s) := by
  unfold SendStream.writeChain writeDataToQuicStream
  refine Ends.ite (fun _ => ?_) fun _ => .ok (.refl s)
  refine Ends.ite (fun _ => .error trivial) fun _ => ?_
  refine Ends.ite (fun _ => .error trivial) fun _ => ?_
  apply SameLimit.updateWritableStreams
  split <;> exact ⟨rfl, rfl⟩

theorem SameLimit.sendRstSMHandler (s : SendStream) (errorCode : Nat) :
    Ends AnyFault (s.sendRstSMHandler errorCode) (fun r => SameLimit s r.1) := by
  unfold SendStream.sendRstSMHandler
  split
  · exact .ok ⟨rfl, rfl⟩
  · exact .ok (.refl s)
  · exact .ok (.refl s)
  · exact .error trivial

theorem SameLimit.emplaceBufMeta {t : SendStream} (h : SameLimit s t) (bufMeta : WriteBufferMeta) :
    Ends AnyFault (t.emplaceBufMeta bufMeta) (SameLimit s) := by
  unfold SendStream.emplaceBufMeta
  exact Ends.ite (fun _ => .error trivial) fun _ => .ok h

theorem SameLimit.handleStreamBufMetaWritten (s : SendStream) (offset len : Nat) (fin : Bool) :
    Ends AnyFault (s.handleStreamBufMetaWritten offset len fin) (fun r => SameLimit s r.1) := by
  unfold SendStream.handleStreamBufMetaWritten
  refine Ends.ite (fun _ => ?_) fun _ => ?_
  · refine Ends.bind (P := SameLimit s) ?_ fun t ht => .ok ht
    unfold handleNewStreamBufMetaWritten
    refine Ends.ite (fun _ => .error trivial) fun _ => ?_
    apply SameLimit.emplaceBufMeta
    exact ⟨rfl, rfl⟩
  · split
    · refine Ends.ite (fun _ => ?_) fun _ => .error trivial
      refine Ends.bind (P := SameLimit s) ?_ fun t ht => .ok ht
      unfold handleRetransmissionBufMetaWritten
      refine Ends.ite (fun _ => ?_) fun _ => ?_
      · apply SameLimit.emplaceBufMeta
        exact ⟨rfl, rfl⟩
      · refine Ends.ite (fun _ => .error trivial) fun _ => ?_
        apply SameLimit.emplaceBufMeta
        exact ⟨rfl, rfl⟩
    · exact .error trivial

theorem SameLimit.frameSent (s : SendStream) (frame : WriteStreamFrame) :
    Ends AnyFault (s.frameSent frame) (SameLimit s) := by
  unfold SendStream.frameSent
  refine Ends.bind (P := fun r => SameLimit s r.1) ?_ fun r hr => hr.updateWritableStreams
  refine Ends.ite (fun _ => SameLimit.handleStreamBufMetaWritten s _ _ _) fun _ => ?_
  refine Ends.bind (P := fun _ => True) (.of_forall (fun _ => trivial) fun _ => trivial) fun _ _ => ?_
  exact .ok ⟨rfl, rfl⟩

theorem SameLimit.insertIntoLossBufMeta (s : SendStream) (bufMeta : WriteBufferMeta) :
    SameLimit s (s.insertIntoLossBufMeta bufMeta) := by
  unfold SendStream.insertIntoLossBufMeta
  split
  split
  · exact ⟨rfl, rfl⟩
  · split <;> exact ⟨rfl, rfl⟩

theorem SameLimit.frameLost (s : SendStream) (frame : WriteStreamFrame) (disabled : Bool) :
    Ends AnyFault (s.frameLost frame disabled) (SameLimit s) := by
  unfold SendStream.frameLost
  refine Ends.ite (fun _ => ?_) fun _ => ?_
  · split
    · exact .ok (.refl s)
    · apply SameLimit.updateWritableStreams
      exact ⟨rfl, rfl⟩
  · split
    · exact .ok (.refl s)
    · refine Ends.ite (fun _ => .error trivial) fun _ => ?_
      apply SameLimit.updateWritableStreams
      split
      · exact ⟨rfl, rfl⟩
      · exact SameLimit.trans ⟨rfl, rfl⟩ (SameLimit.insertIntoLossBufMeta _ _)

end SendStream

namespace ClientConn

/-! ### What the client was told -/

/-- The limit of the resumed session for a stream of the client. -/
def resumedLimit (params : CachedServerTransportParameters) (id : StreamId) : Nat :=
  if isUnidirectionalStream id then params.initialMaxStreamDataUni
  else params.initialMaxStreamDataBidiRemote

/-- Every stream is the client's, and its limit is one that a resumed session granted. -/
structure Early (conn : ClientConn) : Prop where
  isLocal : ∀ s ∈ conn.streams, isLocalStream .client s.id = true
  granted : ∀ s ∈ conn.streams, s.peerAdvertisedMaxOffset = 0 ∨
    ∃ params ∈ conn.resumed, s.peerAdvertisedMaxOffset = resumedLimit params s.id
  next : ∀ id, isLocalStream .client id = true → initialStreamLimit conn.flowControlState id = 0 ∨
    ∃ params ∈ conn.resumed, initialStreamLimit conn.flowControlState id = resumedLimit params id

theorem Early.resume {conn : ClientConn} (h : conn.Early) (params : CachedServerTransportParameters) :
    Ends (fun _ => True) (conn.updateTransportParamsFromCachedEarlyParams params) Early := by
  unfold updateTransportParamsFromCachedEarlyParams
  refine Ends.any.bind fun _ _ => ?_
  refine Ends.any.bind fun _ _ => ?_
  refine .ok ⟨h.isLocal, fun s hs => ?_, fun id hid => ?_⟩
  · refine (h.granted s hs).imp_right ?_
    rintro ⟨old, hold, heq⟩
    exact ⟨old, List.mem_cons_of_mem _ hold, heq⟩
  · refine .inr ⟨params, List.mem_cons_self, ?_⟩
    unfold initialStreamLimit resumedLimit
    rw [hid]
    rfl

theorem Early.openStream {conn : ClientConn} (h : conn.Early) (id : StreamId) :
    (conn.openStream id).Early := by
  unfold ClientConn.openStream
  split
  · next hopen =>
      refine ⟨?_, ?_, h.next⟩
      · intro s hs
        cases List.mem_cons.mp hs with
        | inl heq =>
          subst heq
          exact hopen.1
        | inr hs => exact h.isLocal s hs
      · intro s hs
        cases List.mem_cons.mp hs with
        | inl heq =>
          subst heq
          exact h.next id hopen.1
        | inr hs => exact h.granted s hs
  · exact h

theorem Early.onStream {conn : ClientConn} (h : conn.Early) (id : StreamId)
    {act : SendStream → Except StreamFault SendStream}
    (hact : ∀ s, Ends AnyFault (act s) (SendStream.SameLimit s)) :
    Ends (fun _ => True) (conn.onStream id act) Early := by
  have hstreams : Ends (fun _ => True) (conn.streams.mapM fun s =>
      if s.id = id then liftClientStream (act s) else .ok s)
      (List.Forall₂ SendStream.SameLimit conn.streams) := by
    apply Ends.mapM
    intro s hs
    refine Ends.ite (fun _ => ?_) fun _ => .ok (.refl s)
    have hs := hact s
    unfold liftClientStream
    cases hx : act s with
    | error f => exact .error trivial
    | ok t => exact .ok (hs.of_ok hx)
  unfold ClientConn.onStream
  refine Ends.bind hstreams fun streams hstreams => ?_
  refine .ok ⟨fun t ht => ?_, fun t ht => ?_, h.next⟩
  · obtain ⟨s, hs, hid, -⟩ := exists_of_forall₂ hstreams ht
    rw [hid]
    exact h.isLocal s hs
  · obtain ⟨s, hs, hid, hlimit⟩ := exists_of_forall₂ hstreams ht
    rw [hid, hlimit]
    exact h.granted s hs

theorem Early.step {conn conn' : ClientConn} {e : EarlyEvent} (h : conn.Early)
    (hstep : conn.step e = .ok conn') : conn'.Early := by
  cases e with
  | resume params => exact (h.resume params).of_ok hstep
  | initialPacket sourceConnId =>
    cases hstep
    exact ⟨h.isLocal, h.granted, h.next⟩
  | retryPacket token =>
    cases hstep
    unfold ClientConn.onRetryPacket
    split
    · exact h
    · exact ⟨h.isLocal, h.granted, h.next⟩
  | openStream id =>
    cases hstep
    exact h.openStream id
  | writeChain id data eof =>
    exact (h.onStream id fun s => SendStream.SameLimit.writeChain s data eof).of_ok hstep
  | resetStream id errorCode =>
    exact (h.onStream id fun s => (SendStream.SameLimit.sendRstSMHandler s errorCode).map).of_ok hstep
  | frameSent id frame =>
    exact (h.onStream id fun s => SendStream.SameLimit.frameSent s frame).of_ok hstep
  | frameLost id frame =>
    exact (h.onStream id fun s => SendStream.SameLimit.frameLost s frame false).of_ok hstep

end ClientConn

end MasqueQuic
