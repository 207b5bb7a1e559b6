/-
Path validation on a server.

A packet from another address moves the connection there. Unless the address is known to be
good, a challenge is queued, and until it is answered from the same address the connection
may send no more than the rate limiter of the path allows. What is known about the current
address is spread over the pending challenge, the outstanding one and the addresses left
behind; `confirmed` records the addresses that have answered and is read by nothing. The
congestion controller and the handlers of frames that have no part in this are parameters.
-/

import MasqueQuic.Quic.ControlFrames

namespace MasqueQuic

variable {κ : Type}

/-! ### The rate limiter -/

def kMinCwndInMss : Nat := 2

structure PendingPathRateLimiter where
  maxCredit : Nat
  credit : Nat
  lastChecked : Option Nat
  deriving DecidableEq

namespace PendingPathRateLimiter

def new (udpSendPacketLen : Nat) : PendingPathRateLimiter where
  maxCredit := kMinCwndInMss * udpSendPacketLen % 2 ^ 64
  credit := kMinCwndInMss * udpSendPacketLen % 2 ^ 64
  lastChecked := none

/-- The credit is compared with the bytes in debug builds only; it wraps around in 64 bits. -/
def onPacketSent (l : PendingPathRateLimiter) (sentBytes : Nat) : PendingPathRateLimiter :=
  { l with credit := if sentBytes ≤ l.credit then l.credit - sentBytes
      else 2 ^ 64 - (sentBytes - l.credit) }

def Refills (l : PendingPathRateLimiter) (checkTime rtt : Nat) : Prop :=
  ∀ last ∈ l.lastChecked, last + rtt < checkTime

instance (l : PendingPathRateLimiter) (checkTime rtt : Nat) : Decidable (l.Refills checkTime rtt) :=
  inferInstanceAs (Decidable (∀ last ∈ l.lastChecked, last + rtt < checkTime))

/-- The limiter after the check; its credit is the result. -/
def currentCredit (l : PendingPathRateLimiter) (checkTime rtt : Nat) : PendingPathRateLimiter :=
  if l.Refills checkTime rtt then { l with lastChecked := some checkTime, credit := l.maxCredit }
  else l

end PendingPathRateLimiter

/-! ### The connection -/

def kDefaultInitialRtt : Nat := 50000

def kDefaultMinRtt : Nat := 2 ^ 63 - 1

def kTimeToRetainLastCongestionAndRttState : Nat := 60000000

structure CongestionAndRttState (κ : Type) where
  peerAddress : SocketAddress
  recordTime : Nat
  congestionController : Option κ
  srtt : Nat
  lrtt : Nat
  rttvar : Nat
  mrtt : Nat

structure ConnectionMigrationState (κ : Type) where
  numMigrations : Nat
  previousPeerAddresses : List SocketAddress
  lastCongestionAndRtt : Option (CongestionAndRttState κ)

/-- The settings that migration depends on. `makeCongestionController` stands for the factory. -/
structure PathSettings (κ : Type) where
  disableMigration : Bool
  maxNumMigrationsAllowed : Nat
  limitedCwndInMss : Nat
  enableWritableBytesLimit : Bool
  makeCongestionController : κ

/-- `exception` covers every exception out of `onNetworkData` and the close by the peer. -/
inductive CloseState where
  | open
  | exception
  | pathValidationTimedOut
  deriving DecidableEq

structure ServerPath (κ : Type) where
  settings : PathSettings κ
  originalPeerAddress : SocketAddress
  peerAddress : SocketAddress
  migrationState : ConnectionMigrationState κ
  /-- The pending control frames, the pending challenge and the outstanding one. -/
  control : ControlState Unit
  schedulePathValidationTimeout : Bool
  /-- `pathValidationTimeout_.isScheduled()`. -/
  pathValidationTimer : Bool
  pathChallengeStartTime : Nat
  pathValidationLimiter : Option PendingPathRateLimiter
  writableBytesLimit : Option Nat
  isClientAddrVerified : Bool
  oneRttReadCipher : Bool
  largestRecvdPacketNum : Option Nat
  lossState : LossState
  totalBytesSent : Nat
  congestionController : Option κ
  udpSendPacketLen : Nat
  closeState : CloseState
  confirmed : List SocketAddress

/-- The assertions on the path. -/
inductive PathFault where
  | noLimiter           -- `CHECK(conn.pathValidationLimiter)` in `congestionControlWritableBytes`
  | writableBytesLimit  -- `CHECK(!conn.writableBytesLimit)` there
  | notOutstanding      -- `CHECK(conn_->outstandingPathValidation)` in `pathValidationTimeoutExpired`
  | control (e : ControlFailure Unit)
  deriving DecidableEq

/-- The frames of a received packet, as far as paths are concerned. -/
inductive PathFrame where
  /-- An ack, with the control frames of the packets that are declared lost on it. -/
  | ack (lost : List QuicSimpleFrame)
  | simple (frame : QuicSimpleFrame)
  | connectionClose
  /-- Padding, datagrams and immediate acks. -/
  | probing
  | nonProbing
  /-- A frame of any kind whose handler throws. -/
  | invalid
  deriving DecidableEq

/-- How the loop over the frames ends: at its end, by an exception, or at a close. -/
inductive FramesEnd where
  | done (isNonProbingPacket : Bool)
  | threw
  | peerClosed
  deriving DecidableEq

/-- A 1-RTT packet. -/
structure PathPacket where
  packetNum : Nat
  frames : List PathFrame
  /-- What is drawn for a challenge. -/
  pathData : Nat
  deriving DecidableEq

namespace ServerPath

/-- A challenge is pending or outstanding. -/
def Validating (s : ServerPath κ) : Prop :=
  s.control.pathChallenge.isSome ∨ s.control.outstandingPathValidation.isSome

instance (s : ServerPath κ) : Decidable s.Validating :=
  inferInstanceAs (Decidable (_ ∨ _))

/-! ### Writable bytes -/

/-- Up to the next multiple of the packet length, in 64 bits. -/
def roundUp (s : ServerPath κ) (writableBytes : Nat) : Nat :=
  (writableBytes + s.udpSendPacketLen - 1) % 2 ^ 64 / s.udpSendPacketLen * s.udpSendPacketLen

def unlimitedWritableBytes : Nat := 2 ^ 64 - 1

def maybeUnvalidatedClientWritableBytes (s : ServerPath κ) : Nat :=
  match s.writableBytesLimit with
  | none => unlimitedWritableBytes
  | some limit =>
      if limit ≤ s.totalBytesSent then 0 else s.roundUp (limit - s.totalBytesSent)

/-- The round trip time the limiter works with. -/
def limiterRtt (s : ServerPath κ) : Nat :=
  if s.lossState.srtt = 0 then kDefaultInitialRtt else s.lossState.srtt

/-- What `congestionControlWritableBytes` starts from: the credit of the path, or the limit of
a client whose address is not verified. -/
def pathWritableBytes (s : ServerPath κ) (now : Nat) : Except PathFault (Nat × ServerPath κ) :=
  if s.Validating then
    match s.pathValidationLimiter with
    | none => .error .noLimiter
    | some limiter =>
        if s.writableBytesLimit.isSome then .error .writableBytesLimit
        else
          .ok ((limiter.currentCredit now s.limiterRtt).credit,
            { s with pathValidationLimiter := some (limiter.currentCredit now s.limiterRtt) })
  else .ok (s.maybeUnvalidatedClientWritableBytes, s)

/-- The smaller of the two limits, rounded up. -/
def ceilWritableBytes (s : ServerPath κ) (writableBytes : Nat) (getWritableBytes : Option Nat) : Nat :=
  let writableBytes := getWritableBytes.elim writableBytes (min writableBytes)
  if writableBytes = unlimitedWritableBytes then writableBytes else s.roundUp writableBytes

/-- `getWritableBytes` of the congestion controller is an argument; it is absent when there
is no controller. -/
def congestionControlWritableBytes (s : ServerPath κ) (now : Nat) (getWritableBytes : Option Nat) :
    Except PathFault (Nat × ServerPath κ) := do
  let (writableBytes, s) ← s.pathWritableBytes now
  return (s.ceilWritableBytes writableBytes getWritableBytes, s)

/-! ### Migration -/

def moveCurrentCongestionAndRttState (s : ServerPath κ) (now : Nat) :
    CongestionAndRttState κ × ServerPath κ :=
  ({ peerAddress := s.peerAddress
     recordTime := now
     congestionController := s.congestionController
     srtt := s.lossState.srtt
     lrtt := s.lossState.lrtt
     rttvar := s.lossState.rttvar
     mrtt := s.lossState.mrtt },
    { s with congestionController := none })

def resetCongestionAndRttState (s : ServerPath κ) : ServerPath κ :=
  { s with
    congestionController := some s.settings.makeCongestionController
    lossState := { s.lossState with srtt := 0, lrtt := 0, rttvar := 0, mrtt := kDefaultMinRtt } }

def recoverOrResetCongestionAndRttState (s : ServerPath κ) (peerAddress : SocketAddress)
    (now : Nat) : ServerPath κ :=
  match s.migrationState.lastCongestionAndRtt with
  | none => s.resetCongestionAndRttState
  | some last =>
      if last.peerAddress = peerAddress ∧
          now - last.recordTime ≤ kTimeToRetainLastCongestionAndRttState then
        { s with
          congestionController := last.congestionController
          lossState := { s.lossState with
            srtt := last.srtt, lrtt := last.lrtt, rttvar := last.rttvar, mrtt := last.mrtt }
          migrationState := { s.migrationState with lastCongestionAndRtt := none } }
      else s.resetCongestionAndRttState

/-- The port changed, or an IPv4 address within its /24. -/
def maybeNATRebinding (newPeerAddress oldPeerAddress : SocketAddress) : Bool :=
  newPeerAddress.ip == oldPeerAddress.ip ||
    match newPeerAddress.ip, oldPeerAddress.ip with
    | .v4 new, .v4 old => new.addr.val.take 3 == old.addr.val.take 3
    | _, _ => false

/-- What a packet from a new address finds. `pathData` is drawn at random. `none` is
`INVALID_MIGRATION`. -/
def onConnectionMigration (s : ServerPath κ) (newPeerAddress : SocketAddress) (pathData now : Nat) :
    Option (ServerPath κ) :=
  if s.settings.maxNumMigrationsAllowed ≤ s.migrationState.numMigrations then none
  else
    let hasPendingPathChallenge := s.control.pathChallenge.isSome
    let previous := s.migrationState.previousPeerAddresses
    let known := newPeerAddress ∈ previous
    let s := { s with
      control := { s.control with pathChallenge := if known then none else some pathData }
      pathValidationLimiter :=
        if known then s.pathValidationLimiter else some (.new s.udpSendPacketLen)
      migrationState := { s.migrationState with
        numMigrations := s.migrationState.numMigrations + 1
        previousPeerAddresses := if known then previous.erase newPeerAddress else previous } }
    let isNATRebinding := maybeNATRebinding newPeerAddress s.peerAddress
    let s :=
      if hasPendingPathChallenge ∨ s.control.outstandingPathValidation.isSome then
        -- the validation in progress is given up
        let s := { s with
          schedulePathValidationTimeout := false
          control := { s.control with outstandingPathValidation := none } }
        if isNATRebinding then s else s.recoverOrResetCongestionAndRttState newPeerAddress now
      else
        let s := { s with
          migrationState := { s.migrationState with
            previousPeerAddresses := s.migrationState.previousPeerAddresses ++ [s.peerAddress] } }
        if isNATRebinding then s
        else
          let (state, s) := s.moveCurrentCongestionAndRttState now
          let s := s.recoverOrResetCongestionAndRttState newPeerAddress now
          { s with migrationState := { s.migrationState with lastCongestionAndRtt := some state } }
    some { s with peerAddress := newPeerAddress }

/-! ### Received packets -/

/-- The result says whether the frame is one that probing packets do not have. `none` is an
exception. -/
def updateSimpleFrameOnPacketReceived (s : ServerPath κ) (peer : SocketAddress) (now : Nat) :
    QuicSimpleFrame → Option (ServerPath κ × Bool)
  | .pathChallenge pathData =>
      some ({ s with control := { s.control with
        frames := s.control.frames ++ [.pathResponse pathData] } }, false)
  | .pathResponse pathData =>
      if peer ≠ s.peerAddress ∨ s.control.outstandingPathValidation ≠ some pathData then
        some (s, false)
      else
        some ({ s with
          control := { s.control with outstandingPathValidation := none }
          schedulePathValidationTimeout := false
          lossState := updateRtt s.lossState (now - s.pathChallengeStartTime) 0
          confirmed := peer :: s.confirmed }, false)
  | .newConnectionId _ => some (s, false)
  | .handshakeDone => none
  | _ => some (s, true)

def lost (s : ServerPath κ) (frames : List QuicSimpleFrame) : ServerPath κ :=
  { s with control := frames.foldl ControlState.updateSimpleFrameOnPacketLoss s.control }

def receiveFrames (peer : SocketAddress) (now : Nat) (isNonProbingPacket : Bool) :
    List PathFrame → ServerPath κ → ServerPath κ × FramesEnd
  | [], s => (s, .done isNonProbingPacket)
  | .ack lost :: frames, s => receiveFrames peer now true frames (s.lost lost)
  | .simple frame :: frames, s =>
      match s.updateSimpleFrameOnPacketReceived peer now frame with
      | none => (s, .threw)
      | some (s, nonProbing) =>
          receiveFrames peer now (isNonProbingPacket || nonProbing) frames s
  | .connectionClose :: _, s => (s, .peerClosed)
  | .probing :: frames, s => receiveFrames peer now isNonProbingPacket frames s
  | .nonProbing :: frames, s => receiveFrames peer now true frames s
  | .invalid :: _, s => (s, .threw)

def updateWritableByteLimitOnRecvPacket (s : ServerPath κ) : ServerPath κ :=
  match s.writableBytesLimit with
  | some limit => { s with
      writableBytesLimit := some (limit + s.settings.limitedCwndInMss * s.udpSendPacketLen) }
  | none =>
      if !s.isClientAddrVerified && s.settings.enableWritableBytesLimit then
        { s with writableBytesLimit := some (s.settings.limitedCwndInMss * s.udpSendPacketLen) }
      else s

def close (s : ServerPath κ) (closeState : CloseState) : ServerPath κ :=
  { s with closeState, pathValidationTimer := false }

/-- What is left to do for a packet when the loop over its frames has ended. -/
def afterFrames (peer : SocketAddress) (now : Nat) (packet : PathPacket) (s : ServerPath κ) :
    FramesEnd → ServerPath κ
  | .threw => s.close .exception
  | .peerClosed => s.close .exception
  | .done isNonProbingPacket =>
      let s := s.updateWritableByteLimitOnRecvPacket
      if peer = s.peerAddress then s
      else if !isNonProbingPacket then s.close .exception
      else if s.largestRecvdPacketNum ≠ some packet.packetNum then s
      else (s.onConnectionMigration peer packet.pathData now).getD (s.close .exception)

def updateLargestReceivedPacketNum (s : ServerPath κ) (packetNum : Nat) : ServerPath κ :=
  { s with largestRecvdPacketNum := some (s.largestRecvdPacketNum.elim packetNum (max packetNum)) }

/-- `onServerReadDataFromOpen` on a 1-RTT packet. -/
def onPacket (peer : SocketAddress) (now : Nat) (s : ServerPath κ) (packet : PathPacket) :
    ServerPath κ :=
  if s.closeState ≠ .open then s
  -- without the cipher the packet is buffered or dropped
  else if s.oneRttReadCipher = false then s
  else if peer ≠ s.peerAddress ∧ s.settings.disableMigration then s.close .exception
  else
    let (s, framesEnd) := receiveFrames peer now false packet.frames
      (s.updateLargestReceivedPacketNum packet.packetNum)
    s.afterFrames peer now packet framesEnd

/-- `schedulePathValidationTimeout()`: the timer follows the flag. -/
def scheduleTimer (s : ServerPath κ) : ServerPath κ :=
  if s.closeState ≠ .open then s
  else { s with pathValidationTimer := s.schedulePathValidationTimeout }

def onNetworkData (s : ServerPath κ) (peer : SocketAddress) (packets : List PathPacket) (now : Nat) :
    ServerPath κ :=
  (packets.foldl (onPacket peer now) s).scheduleTimer

/-! ### Sent packets -/

/-- The challenge goes out with a packet. -/
def challengeSent (s : ServerPath κ) (now : Nat) : Except PathFault (ServerPath κ) :=
  match s.control.pathChallenge with
  | none => .ok s
  | some pathData =>
      match s.control.updateSimpleFrameOnPacketSent (.pathChallenge pathData) with
      | .error e => .error (.control e)
      | .ok control =>
          .ok { s with control, schedulePathValidationTimeout := true, pathChallengeStartTime := now }

/-- `updateConnection` on a packet that asks for an ack. Only a packet that is no clone can
take the pending challenge along, if there is room for it. -/
def updateConnection (s : ServerPath κ) (now encodedSize : Nat) (challengeFits : Bool) :
    Except PathFault (ServerPath κ) := do
  let s ← (if challengeFits then s.challengeSent now else .ok s)
  return { s with
    totalBytesSent := s.totalBytesSent + encodedSize
    pathValidationLimiter :=
      if s.Validating then s.pathValidationLimiter.map (·.onPacketSent encodedSize)
      else s.pathValidationLimiter }

/-- One turn of the write loop. A packet is built when the writable bytes leave room for
it. -/
def write (s : ServerPath κ) (now : Nat) (getWritableBytes : Option Nat) (encodedSize : Nat)
    (challengeFits : Bool) : Except PathFault (ServerPath κ) := do
  let (writableBytes, s) ← s.congestionControlWritableBytes now getWritableBytes
  if 0 < encodedSize ∧ encodedSize ≤ min s.udpSendPacketLen writableBytes then
    s.updateConnection now encodedSize challengeFits
  else return s

/-! ### Runs -/

/-- A packet of an earlier encryption level. Reading crypto data from it may check the source
token, as long as the handshake is not over, and may derive the 1-RTT cipher. -/
def onHandshakePacket (s : ServerPath κ) (peer : SocketAddress)
    (limitedSourceToken derivesOneRttReadCipher : Bool) : ServerPath κ :=
  if peer ≠ s.peerAddress then s.close .exception
  else
    let s := s.updateWritableByteLimitOnRecvPacket
    let s :=
      if limitedSourceToken && !s.oneRttReadCipher then
        { s with writableBytesLimit := some (s.settings.limitedCwndInMss * s.udpSendPacketLen) }
      else s
    if derivesOneRttReadCipher then
      { s with isClientAddrVerified := true, writableBytesLimit := none, oneRttReadCipher := true }
    else s

def pathValidationTimeoutExpired (s : ServerPath κ) : Except PathFault (ServerPath κ) :=
  if s.control.outstandingPathValidation.isNone then .error .notOutstanding
  else
    let s := { s with
      schedulePathValidationTimeout := false
      control := { s.control with outstandingPathValidation := none } }
    .ok (s.close .pathValidationTimedOut)

end ServerPath

inductive PathEvent where
  | handshakePacket (peer : SocketAddress) (limitedSourceToken derivesOneRttReadCipher : Bool)
  | verifiedClientAddress
  | networkData (peer : SocketAddress) (packets : List PathPacket) (now : Nat)
  | write (now : Nat) (getWritableBytes : Option Nat) (encodedSize : Nat) (challengeFits : Bool)
  /-- A probe is not held back; it may be a clone. -/
  | probe (now encodedSize : Nat) (challengeFits : Bool)
  /-- Packets with these control frames are declared lost by the alarm. -/
  | lossAlarm (frames : List QuicSimpleFrame)
  | rttSample (rttSample ackDelay : Nat)
  | pathValidationTimeout
  | close
  deriving DecidableEq

namespace ServerPath

def step (s : ServerPath κ) (event : PathEvent) : Except PathFault (ServerPath κ) :=
  if s.closeState ≠ .open then .ok s
  else
    match event with
    | .handshakePacket peer limitedSourceToken derivesOneRttReadCipher =>
        .ok (s.onHandshakePacket peer limitedSourceToken derivesOneRttReadCipher).scheduleTimer
    | .verifiedClientAddress =>
        .ok { s with isClientAddrVerified := true, writableBytesLimit := none }
    | .networkData peer packets now => .ok (s.onNetworkData peer packets now)
    | .write now getWritableBytes encodedSize challengeFits =>
        scheduleTimer <$> s.write now getWritableBytes encodedSize challengeFits
    | .probe now encodedSize challengeFits =>
        scheduleTimer <$> s.updateConnection now encodedSize challengeFits
    | .lossAlarm frames => .ok (s.lost frames)
    | .rttSample rttSample ackDelay =>
        .ok { s with lossState := updateRtt s.lossState rttSample ackDelay }
    | .pathValidationTimeout =>
        -- a timer that is not set does not fire
        if s.pathValidationTimer then s.pathValidationTimeoutExpired else .ok s
    | .close => .ok (s.close .exception)

/-- A connection before its first packet. -/
def start (settings : PathSettings κ) (originalPeerAddress : SocketAddress)
    (udpSendPacketLen : Nat) (lossState : LossState) (congestionController : Option κ) :
    ServerPath κ where
  settings := settings
  originalPeerAddress := originalPeerAddress
  peerAddress := originalPeerAddress
  migrationState := ⟨0, [], none⟩
  control := {
    frames := [], pathChallenge := none, outstandingPathValidation := none
    openStreams := ∅, closedStreams := ∅
    sentHandshakeDone := false, handshakeConfirmedThisLoop := false
    handed := [], acked := [], confirmations := 0, other := () }
  schedulePathValidationTimeout := false
  pathValidationTimer := false
  pathChallengeStartTime := 0
  pathValidationLimiter := none
  writableBytesLimit := none
  isClientAddrVerified := false
  oneRttReadCipher := false
  largestRecvdPacketNum := none
  lossState := lossState
  totalBytesSent := 0
  congestionController := congestionController
  udpSendPacketLen := udpSendPacketLen
  closeState := .open
  confirmed := []

/-! ### The address in use -/

/-- The addresses that are known to be good: that of the handshake, and those that have
answered a challenge. -/
def Trusted (s : ServerPath κ) (address : SocketAddress) : Prop :=
  address = s.originalPeerAddress ∨ address ∈ s.confirmed

structure Inv (s : ServerPath κ) : Prop where
  validating : s.Validating → s.pathValidationLimiter.isSome ∧ s.oneRttReadCipher = true
  verified : s.oneRttReadCipher = true → s.isClientAddrVerified = true ∧ s.writableBytesLimit = none
  current : s.closeState ≠ .pathValidationTimedOut → s.Validating ∨ s.Trusted s.peerAddress
  previous : ∀ address ∈ s.migrationState.previousPeerAddresses, s.Trusted address
  scheduled : s.schedulePathValidationTimeout = true → s.control.outstandingPathValidation.isSome
  closed : s.closeState ≠ .open → s.pathValidationTimer = false

/-- The fields that the invariant is about. -/
def view (s : ServerPath κ) :=
  (s.originalPeerAddress, s.peerAddress, s.migrationState.previousPeerAddresses,
    s.Validating, s.control.outstandingPathValidation.isSome, s.schedulePathValidationTimeout,
    s.pathValidationTimer, s.pathValidationLimiter.isSome, s.writableBytesLimit,
    s.isClientAddrVerified, s.oneRttReadCipher, s.closeState, s.confirmed)

variable {s t : ServerPath κ} {peer : SocketAddress} {now : Nat}

theorem Inv.of_view (hs : s.Inv) (h : t.view = s.view) : t.Inv := by
  simp only [view, Prod.mk.injEq] at h
  obtain ⟨horiginal, hpeer, hprevious, hvalidating, houtstanding, hscheduled, htimer, hlimiter,
    hlimit, hverified, hcipher, hclose, hconfirmed⟩ := h
  have htrusted : ∀ address, t.Trusted address ↔ s.Trusted address := by
    intro address
    rw [Trusted, Trusted, horiginal, hconfirmed]
  constructor
  · rw [hvalidating, hlimiter, hcipher]
    exact hs.validating
  · rw [hcipher, hverified, hlimit]
    exact hs.verified
  · rw [hclose, hvalidating, hpeer, htrusted]
    exact hs.current
  · intro address haddress
    rw [hprevious] at haddress
    exact (htrusted address).mpr (hs.previous address haddress)
  · rw [hscheduled, houtstanding]
    exact hs.scheduled
  · rw [hclose, htimer]
    exact hs.closed

/-- What a migration comes to for the path. -/
def migrated (s : ServerPath κ) (peer : SocketAddress) (pathData : Nat) : ServerPath κ :=
  let previous := s.migrationState.previousPeerAddresses
  { s with
    peerAddress := peer
    control := { s.control with
      pathChallenge := if peer ∈ previous then none else some pathData
      outstandingPathValidation := none }
    pathValidationLimiter :=
      if peer ∈ previous then s.pathValidationLimiter else some (.new s.udpSendPacketLen)
    schedulePathValidationTimeout := if s.Validating then false else s.schedulePathValidationTimeout
    migrationState := { s.migrationState with
      previousPeerAddresses := (if peer ∈ previous then previous.erase peer else previous) ++
        (if s.Validating then [] else [s.peerAddress]) } }

theorem Inv.migrated (hs : s.Inv) (hcipher : s.oneRttReadCipher = true)
    (hopen : s.closeState = .open) (pathData : Nat) : (s.migrated peer pathData).Inv := by
  have hcurrent := hs.current (by rw [hopen]; nofun)
  have hunscheduled : ¬ s.Validating → s.schedulePathValidationTimeout ≠ true :=
    fun hvalidating hscheduled => hvalidating (.inr (hs.scheduled hscheduled))
  constructor
  · intro hvalidating
    refine ⟨?_, hcipher⟩
    by_cases hknown : peer ∈ s.migrationState.previousPeerAddresses
    · simp [Validating, ServerPath.migrated, hknown] at hvalidating
    · simp [ServerPath.migrated, hknown]
  · exact hs.verified
  · intro _
    by_cases hknown : peer ∈ s.migrationState.previousPeerAddresses
    · exact .inr (hs.previous peer hknown)
    · refine .inl (.inl ?_)
      simp [ServerPath.migrated, hknown]
  · intro address haddress
    rcases List.mem_append.mp haddress with hprevious | hleft
    · refine hs.previous address ?_
      split at hprevious
      · exact List.mem_of_mem_erase hprevious
      · exact hprevious
    · by_cases hvalidating : s.Validating
      · rw [if_pos hvalidating] at hleft
        cases hleft
      · rw [if_neg hvalidating] at hleft
        rw [List.mem_singleton.mp hleft]
        exact hcurrent.resolve_left hvalidating
  · intro hscheduled
    by_cases hvalidating : s.Validating
    · simp [ServerPath.migrated, hvalidating] at hscheduled
    · simp only [ServerPath.migrated, if_neg hvalidating] at hscheduled
      exact absurd hscheduled (hunscheduled hvalidating)
  · exact hs.closed

theorem Inv.closes (hs : s.Inv) (hopen : s.closeState = .open) : (s.close .exception).Inv where
  validating := hs.validating
  verified := hs.verified
  current _ := hs.current (by rw [hopen]; nofun)
  previous := hs.previous
  scheduled := hs.scheduled
  closed _ := rfl

theorem lost_view (s : ServerPath κ) (frames : List QuicSimpleFrame) :
    (s.lost frames).view = s.view := by
  induction frames generalizing s with
  | nil => rfl
  | cons frame frames ih =>
    refine (ih { s with control := s.control.updateSimpleFrameOnPacketLoss frame }).trans ?_
    cases frame with
    | stopSending streamId errorCode =>
      dsimp only [ControlState.updateSimpleFrameOnPacketLoss]
      split <;> rfl
    | pathChallenge pathData =>
      dsimp only [ControlState.updateSimpleFrameOnPacketLoss]
      by_cases houtstanding : s.control.outstandingPathValidation = some pathData
      · simp [view, Validating, houtstanding]
      · rw [if_neg houtstanding]
    | _ => rfl

/-- Once the 1-RTT cipher is there, received packets set no limit. -/
theorem updateWritableByteLimitOnRecvPacket_eq (hs : s.Inv) (hcipher : s.oneRttReadCipher = true) :
    s.updateWritableByteLimitOnRecvPacket = s := by
  obtain ⟨hverified, hlimit⟩ := hs.verified hcipher
  rw [updateWritableByteLimitOnRecvPacket, hlimit]
  simp [hverified]

/-- Before the 1-RTT cipher is there, nothing is being validated and the limit may be any. -/
theorem Inv.of_early (hs : s.Inv) (hcipher : s.oneRttReadCipher = false) (limit : Option Nat)
    (isClientAddrVerified : Bool) :
    ({ s with writableBytesLimit := limit, isClientAddrVerified } : ServerPath κ).Inv where
  validating := hs.validating
  verified h := by
    rw [hcipher] at h
    cases h
  current := hs.current
  previous := hs.previous
  scheduled := hs.scheduled
  closed := hs.closed

/-- The handshake is over, or the address is verified in another way. -/
theorem Inv.of_verified (hs : s.Inv) (oneRttReadCipher : Bool)
    (h : s.oneRttReadCipher = true → oneRttReadCipher = true) :
    ({ s with isClientAddrVerified := true, writableBytesLimit := none, oneRttReadCipher } :
      ServerPath κ).Inv where
  validating hvalidating := (hs.validating hvalidating).imp_right h
  verified _ := ⟨rfl, rfl⟩
  current := hs.current
  previous := hs.previous
  scheduled := hs.scheduled
  closed := hs.closed

theorem updateWritableByteLimitOnRecvPacket_inv (hs : s.Inv) :
    s.updateWritableByteLimitOnRecvPacket.Inv := by
  cases hcipher : s.oneRttReadCipher with
  | true =>
    rw [updateWritableByteLimitOnRecvPacket_eq hs hcipher]
    exact hs
  | false =>
    unfold updateWritableByteLimitOnRecvPacket
    split
    · exact hs.of_early hcipher _ s.isClientAddrVerified
    · split
      · exact hs.of_early hcipher _ s.isClientAddrVerified
      · exact hs

/-- What the frames of a packet leave alone. -/
def Kept (s t : ServerPath κ) : Prop :=
  t.closeState = s.closeState ∧ t.oneRttReadCipher = s.oneRttReadCipher

/-- The invariant between two events: the timer is set only for an outstanding challenge. -/
def Settled (s : ServerPath κ) : Prop :=
  s.Inv ∧ (s.pathValidationTimer = true → s.schedulePathValidationTimeout = true)

theorem Inv.settled (hs : s.Inv) : s.scheduleTimer.Settled := by
  unfold scheduleTimer
  split
  · rename_i hclose
    exact ⟨hs, fun htimer => by rw [hs.closed hclose] at htimer; cases htimer⟩
  · rename_i hopen
    refine ⟨⟨hs.validating, hs.verified, hs.current, hs.previous, hs.scheduled, ?_⟩, id⟩
    exact fun h => absurd h hopen

theorem pathWritableBytes_of_validating {limiter : PendingPathRateLimiter} (now : Nat)
    (hvalidating : s.Validating) (hlimiter : s.pathValidationLimiter = some limiter)
    (hlimit : s.writableBytesLimit = none) :
    s.pathWritableBytes now = .ok ((limiter.currentCredit now s.limiterRtt).credit,
      { s with pathValidationLimiter := some (limiter.currentCredit now s.limiterRtt) }) := by
  have hnone : ¬ s.writableBytesLimit.isSome = true := by rw [hlimit]; nofun
  rw [pathWritableBytes, if_pos hvalidating, hlimiter]
  dsimp only
  rw [if_neg hnone]

/-- The assertions of `congestionControlWritableBytes` hold. -/
theorem Inv.congestionControlWritableBytes (hs : s.Inv) (now : Nat) (getWritableBytes : Option Nat) :
    ∃ writableBytes t, s.congestionControlWritableBytes now getWritableBytes =
      .ok (writableBytes, t) ∧ t.view = s.view := by
  unfold ServerPath.congestionControlWritableBytes
  by_cases hvalidating : s.Validating
  · obtain ⟨hlimiter, hcipher⟩ := hs.validating hvalidating
    obtain ⟨limiter, hlimiter⟩ := Option.isSome_iff_exists.mp hlimiter
    rw [pathWritableBytes_of_validating now hvalidating hlimiter (hs.verified hcipher).2,
      except_ok_bind]
    refine ⟨_, _, rfl, ?_⟩
    simp only [view, Validating, hlimiter, Option.isSome_some]
  · rw [pathWritableBytes, if_neg hvalidating, except_ok_bind]
    exact ⟨_, _, rfl, rfl⟩

theorem Inv.challengeSent (hs : s.Inv) (now : Nat) :
    ∃ t, s.challengeSent now = .ok t ∧ t.Inv ∧ t.closeState = s.closeState := by
  unfold ServerPath.challengeSent
  cases hpending : s.control.pathChallenge with
  | none => exact ⟨s, rfl, hs, rfl⟩
  | some pathData =>
    have hvalidating : s.Validating := .inl (by rw [hpending]; rfl)
    refine ⟨_, rfl, ⟨fun _ => hs.validating hvalidating, hs.verified, fun _ => ?_, hs.previous,
      fun _ => ?_, hs.closed⟩, rfl⟩
    · exact .inl (.inr (by rw [hpending]; rfl))
    · rw [hpending]
      rfl

theorem Inv.updateConnection (hs : s.Inv) (now encodedSize : Nat) (challengeFits : Bool) :
    ∃ t, s.updateConnection now encodedSize challengeFits = .ok t ∧ t.Inv := by
  have hsent : ∃ t, (if challengeFits then s.challengeSent now else .ok s) = .ok t ∧ t.Inv := by
    cases challengeFits with
    | false => exact ⟨s, rfl, hs⟩
    | true =>
      obtain ⟨t, ht, hInv, -⟩ := hs.challengeSent now
      exact ⟨t, ht, hInv⟩
  obtain ⟨t, ht, hInv⟩ := hsent
  rw [ServerPath.updateConnection, ht, except_ok_bind]
  refine ⟨_, rfl, hInv.of_view ?_⟩
  have hlimiter : (if t.Validating then t.pathValidationLimiter.map (·.onPacketSent encodedSize)
      else t.pathValidationLimiter).isSome = t.pathValidationLimiter.isSome := by
    split
    · rw [Option.isSome_map]
    · rfl
  simp only [view, hlimiter]
  rfl

theorem Inv.write (hs : s.Inv) (now : Nat) (getWritableBytes : Option Nat) (encodedSize : Nat)
    (challengeFits : Bool) :
    ∃ t, s.write now getWritableBytes encodedSize challengeFits = .ok t ∧ t.Inv := by
  obtain ⟨writableBytes, t, ht, hview⟩ := hs.congestionControlWritableBytes now getWritableBytes
  unfold ServerPath.write
  rw [ht, except_ok_bind]
  dsimp only
  split
  · exact (hs.of_view hview).updateConnection now encodedSize challengeFits
  · exact ⟨t, rfl, hs.of_view hview⟩

theorem Inv.onHandshakePacket (hs : s.Inv) (hopen : s.closeState = .open) (peer : SocketAddress)
    (limitedSourceToken derivesOneRttReadCipher : Bool) :
    (s.onHandshakePacket peer limitedSourceToken derivesOneRttReadCipher).Inv := by
  unfold ServerPath.onHandshakePacket
  split
  · exact hs.closes hopen
  · have ht := updateWritableByteLimitOnRecvPacket_inv hs
    generalize s.updateWritableByteLimitOnRecvPacket = t at ht
    have htoken : (if (limitedSourceToken && !t.oneRttReadCipher) = true then
        { t with writableBytesLimit := some (t.settings.limitedCwndInMss * t.udpSendPacketLen) }
        else t).Inv := by
      split
      · rename_i hearly
        rw [Bool.and_eq_true, Bool.not_eq_true'] at hearly
        exact ht.of_early hearly.2 _ t.isClientAddrVerified
      · exact ht
    dsimp only
    split
    · exact htoken.of_verified true fun _ => rfl
    · exact htoken

/-- Nothing is left to fire after a close. -/
theorem Inv.settled_of_closed (hs : s.Inv) (hclosed : s.closeState ≠ .open) : s.Settled := by
  refine ⟨hs, fun htimer => ?_⟩
  rw [hs.closed hclosed] at htimer
  cases htimer

theorem Settled.pathValidationTimeoutExpired (hs : s.Settled) (htimer : s.pathValidationTimer = true) :
    ∃ t, s.pathValidationTimeoutExpired = .ok t ∧ t.Settled := by
  have houtstanding := hs.1.scheduled (hs.2 htimer)
  have hsome : ¬ s.control.outstandingPathValidation.isNone = true := by
    rw [← Option.not_isSome, houtstanding]
    nofun
  rw [ServerPath.pathValidationTimeoutExpired, if_neg hsome]
  refine ⟨_, rfl, Inv.settled_of_closed ?_ nofun⟩
  exact {
    validating := fun h => hs.1.validating (h.imp_right nofun)
    verified := hs.1.verified
    current := fun h => absurd rfl h
    previous := hs.1.previous
    scheduled := nofun
    closed := fun _ => rfl }

end ServerPath

end MasqueQuic
