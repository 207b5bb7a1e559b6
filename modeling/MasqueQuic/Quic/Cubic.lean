/-
The Cubic congestion controller.

The controller has three states: `Hystart` (slow start), `Steady`, and `FastRecovery` after a
loss. They share optional fields: a loss sets the window before the last reduction and its
time, persistent congestion and the end of slow start clear them, and `Steady` sets them again
at the first acknowledgement that counts.

The floating-point parts are parameters, as functions of the values they read: the time to
the origin, the growth since the last reduction, the two reductions at a loss, and the estimate
of the window of Reno. Times are in nanoseconds, round-trip times in microseconds. A `CHECK`,
an empty optional that is read and a division by zero are faults, as are the exceptions.
-/

import MasqueQuic.Quic.Inflight
import MasqueQuic.Quic.PathValidation

namespace MasqueQuic

abbrev TimePoint := Int

/-! ### The settings -/

def kInitCwndInMss : Nat := 10

/-- The transport settings of a congestion window. -/
structure CwndSettings where
  initCwndInMss : Nat
  minCwndInMss : Nat
  maxCwndInMss : Nat
  deriving DecidableEq

/-- What `QuicTransportBase::setTransportSettings` does to them, when there is a default
congestion controller. -/
def CwndSettings.setTransportSettings (s : CwndSettings) : CwndSettings :=
  let initCwndInMss := max s.initCwndInMss kInitCwndInMss
  let minCwndInMss := max s.minCwndInMss kMinCwndInMss
  { s with initCwndInMss := max minCwndInMss initCwndInMss, minCwndInMss }

structure CubicConfig where
  settings : CwndSettings
  udpSendPacketLen : Nat
  deriving DecidableEq

namespace CubicConfig

/-- `minCwndInMss * udpSendPacketLen`. -/
def minCwndBytes (cfg : CubicConfig) : Nat := u64 (cfg.settings.minCwndInMss * cfg.udpSendPacketLen)

/-- `maxCwndInMss * udpSendPacketLen`. -/
def maxCwndBytes (cfg : CubicConfig) : Nat := u64 (cfg.settings.maxCwndInMss * cfg.udpSendPacketLen)

def boundedCwnd (cfg : CubicConfig) (cwndBytes : Nat) : Nat :=
  max (min cwndBytes cfg.maxCwndBytes) cfg.minCwndBytes

end CubicConfig

/-! ### The state -/

inductive CubicStates where
  | hystart
  | steady
  | fastRecovery
  deriving DecidableEq

inductive HystartFound where
  | no
  | foundByAckTrainMethod
  | foundByDelayIncreaseMethod
  deriving DecidableEq

inductive ExitReason where
  | ssthresh
  | exitpoint
  deriving DecidableEq

structure HystartState where
  ackTrain : Bool := false
  inRttRound : Bool := false
  found : HystartFound := .no
  roundStart : TimePoint := 0
  lastJiffy : TimePoint := 0
  currSampledRtt : Option Int := none
  lastSampledRtt : Option Int := none
  delayMin : Option Int := none
  ackCount : Nat := 0
  rttRoundEndTarget : TimePoint := 0
  deriving DecidableEq

/-- `δ` is the type `double`. -/
structure SteadyState (δ : Type) where
  timeToOrigin : δ
  originPoint : Option Nat := none
  tcpFriendly : Bool := true
  lastReductionTime : Option TimePoint := none
  lastMaxCwndBytes : Option Nat := none
  estRenoCwnd : Nat

structure Cubic (δ : Type) where
  state : CubicStates := .hystart
  cwndBytes : Nat
  ssthresh : Nat
  quiescenceStart : Option TimePoint := none
  hystartState : HystartState
  steadyState : SteadyState δ
  endOfRecovery : Option TimePoint := none
  experimental : Bool := false
  /-- `conn_.lossState.inflightBytes`. -/
  inflightBytes : Nat := 0

/-- The computations in `float` and `double`. -/
structure CubicFloat (δ : Type) where
  zero : δ
  /-- The cube root, from the bytes to the origin and the packet length. -/
  timeToOrigin : Nat → Nat → δ
  /-- The growth, from the packet length, the time to the origin and the milliseconds elapsed. -/
  cwndDelta : Nat → δ → Int → Int64
  /-- `cwndBytes_ * steadyState_.reductionFactor`. -/
  reduced : Nat → Nat
  /-- `cwndBytes_ * steadyState_.lastMaxReductionFactor`. -/
  lastMaxReduced : Nat → Nat
  /-- `estRenoCwnd` after an acknowledgement: from its value before, the bytes acknowledged and
  the packet length. -/
  renoCwnd : Nat → Nat → Nat → Nat

inductive CubicFault where
  | emptyOptional           -- an optional without a value is read
  | cwndNotSsthresh         -- `CHECK_EQ(cwndBytes_, ssthresh_)`
  | noEndOfRecovery         -- `CHECK(recoveryState_.endOfRecovery.has_value())`
  | divideByZero
  | noAckedPackets          -- `CHECK(!ackEvent->ackedPackets.empty())`
  | inflightBytesOverflow   -- `INFLIGHT_BYTES_OVERFLOW`
  | cwndOverflow            -- `CWND_OVERFLOW`
  | conversion              -- `folly::to<uint64_t>` of a negative number
  deriving DecidableEq

def CubicFault.deref {α : Type} : Option α → Except CubicFault α
  | some a => .ok a
  | none => .error .emptyOptional

/-- What the controller reads of an `AckEvent`. -/
structure CubicAck where
  ackTime : TimePoint
  largestNewlyAckedPacket : Option Nat
  largestNewlyAckedPacketSentTime : TimePoint
  ackedBytes : Nat
  /-- The number of `ackedPackets`. -/
  ackedPackets : Nat
  deriving DecidableEq

/-- What it reads of a `LossEvent`, which has a lost packet. -/
structure CubicLoss where
  lostBytes : Nat
  lossTime : TimePoint
  largestLostSentTime : TimePoint
  persistentCongestion : Bool
  deriving DecidableEq

def kLowSsthreshInMss : Nat := 16

def kAckSampling : Nat := 8

/-- In nanoseconds. -/
def kAckCountingGap : Int := 2000

def kDelayIncreaseUpperBound : Int := 16000

def kDelayIncreaseLowerBound : Int := 4000

/-- `std::chrono::microseconds::max()`. -/
def microsecondsMax : Int := 2 ^ 63 - 1

/-- `folly::chrono::ceil<std::chrono::milliseconds>`. -/
def ceilMilliseconds (d : Int) : Int := -(-d / 1000000)

namespace Cubic

open CubicFault (deref)

variable {δ : Type}

/-- The constructor. -/
def new (F : CubicFloat δ) (cfg : CubicConfig) (initCwndBytes initSsthresh : Nat)
    (tcpFriendly ackTrain : Bool) : Cubic δ :=
  let cwndBytes := min cfg.maxCwndBytes
    (max initCwndBytes (u64 (cfg.settings.initCwndInMss * cfg.udpSendPacketLen)))
  { cwndBytes
    ssthresh := initSsthresh
    hystartState := { ackTrain }
    steadyState := { timeToOrigin := F.zero, tcpFriendly, estRenoCwnd := cwndBytes } }

/-! ### Losses -/

def onPersistentCongestion (cfg : CubicConfig) (c : Cubic δ) : Cubic δ :=
  { c with
    ssthresh := max (c.cwndBytes / 2) cfg.minCwndBytes
    cwndBytes := cfg.minCwndBytes
    steadyState := { c.steadyState with
      estRenoCwnd := if c.steadyState.tcpFriendly then 0 else c.steadyState.estRenoCwnd
      lastReductionTime := none
      lastMaxCwndBytes := none }
    quiescenceStart := none
    hystartState := { c.hystartState with found := .no, inRttRound := false }
    state := .hystart }

def cubicReduction (F : CubicFloat δ) (cfg : CubicConfig) (c : Cubic δ) (lossTime : TimePoint) :
    Cubic δ :=
  let lastMaxCwndBytes :=
    if c.steadyState.lastMaxCwndBytes.getD c.cwndBytes ≤ c.cwndBytes then c.cwndBytes
    else F.lastMaxReduced c.cwndBytes
  let cwndBytes := cfg.boundedCwnd (F.reduced c.cwndBytes)
  { c with
    cwndBytes
    steadyState := { c.steadyState with
      lastMaxCwndBytes := some lastMaxCwndBytes
      lastReductionTime := some lossTime
      estRenoCwnd := if c.steadyState.tcpFriendly then cwndBytes else c.steadyState.estRenoCwnd } }

/-- The part of `onPacketLoss` for a loss past the end of recovery, at the time `now`. -/
def startRecovery (F : CubicFloat δ) (cfg : CubicConfig) (c : Cubic δ) (lossTime now : TimePoint) :
    Cubic δ :=
  let c := cubicReduction F cfg { c with endOfRecovery := some now } lossTime
  { c with
    state := if c.state = .hystart ∨ c.state = .steady then .fastRecovery else c.state
    ssthresh := c.cwndBytes }

def onPacketLoss (F : CubicFloat δ) (cfg : CubicConfig) (c : Cubic δ) (loss : CubicLoss)
    (now : TimePoint) : Cubic δ :=
  let c := { c with
    quiescenceStart := none
    inflightBytes := sub64 c.inflightBytes loss.lostBytes }
  let c :=
    if c.endOfRecovery.getD loss.largestLostSentTime ≤ loss.largestLostSentTime then
      startRecovery F cfg c loss.lossTime now
    else c
  if loss.persistentCongestion then onPersistentCongestion cfg c else c

/-! ### Growth -/

def updateTimeToOrigin (F : CubicFloat δ) (cfg : CubicConfig) (c : Cubic δ) :
    Except CubicFault (Cubic δ) := do
  let lastMaxCwndBytes ← deref c.steadyState.lastMaxCwndBytes
  if lastMaxCwndBytes ≤ c.cwndBytes then
    return { c with steadyState := { c.steadyState with
      timeToOrigin := F.zero
      originPoint := some lastMaxCwndBytes } }
  if cfg.udpSendPacketLen = 0 then
    throw .divideByZero
  return { c with steadyState := { c.steadyState with
    timeToOrigin := F.timeToOrigin (lastMaxCwndBytes - c.cwndBytes) cfg.udpSendPacketLen
    originPoint := some lastMaxCwndBytes } }

def calculateCubicCwndDelta (F : CubicFloat δ) (cfg : CubicConfig) (c : Cubic δ)
    (ackTime : TimePoint) : Except CubicFault Int64 := do
  let lastReductionTime ← deref c.steadyState.lastReductionTime
  if ackTime < lastReductionTime then
    return 0
  -- The log line reads it.
  let _ ← deref c.steadyState.lastMaxCwndBytes
  return F.cwndDelta cfg.udpSendPacketLen c.steadyState.timeToOrigin
    (ceilMilliseconds (ackTime - lastReductionTime))

def calculateCubicCwnd (cfg : CubicConfig) (c : Cubic δ) (delta : Int64) :
    Except CubicFault Nat := do
  let lastMaxCwndBytes ← deref c.steadyState.lastMaxCwndBytes
  if 0 < delta.toInt ∧ uint64Max - lastMaxCwndBytes < delta.toInt.toNat then
    return cfg.maxCwndBytes
  -- The least value is its own `std::abs`.
  if delta.toInt = -2 ^ 63 then
    throw .conversion
  if delta.toInt < 0 ∧ lastMaxCwndBytes < delta.toInt.natAbs then
    return cfg.minCwndBytes
  return cfg.boundedCwnd (delta.toInt + lastMaxCwndBytes).toNat

/-! ### Acknowledgements in `Hystart` -/

def startHystartRttRound (c : Cubic δ) (time now : TimePoint) : Cubic δ :=
  { c with hystartState := { c.hystartState with
    roundStart := time
    lastJiffy := time
    ackCount := 0
    lastSampledRtt := c.hystartState.currSampledRtt
    currSampledRtt := none
    rttRoundEndTarget := now
    inRttRound := true
    found := .no } }

/-- The search for an exit point by the ack train. -/
def searchAckTrain (h : HystartState) (ackTime : TimePoint) (lrtt : Int) : HystartState :=
  if h.ackTrain then
    let delayMin := min (h.delayMin.getD lrtt) lrtt
    let h := { h with delayMin := some delayMin }
    if ackTime - h.lastJiffy ≤ kAckCountingGap then
      { h with
        lastJiffy := ackTime
        found :=
          if delayMin * 1000 ≤ (ackTime - h.roundStart) * 2 then .foundByAckTrainMethod
          else h.found }
    else h
  else h

/-- The search for an exit point by an increase of the delay, once the sampling is over. -/
def searchSampled (h : HystartState) : Except CubicFault HystartState := do
  match h.lastSampledRtt with
  | none => return h
  | some lastSampledRtt =>
      if microsecondsMax - kDelayIncreaseLowerBound ≤ lastSampledRtt then
        return h
      let eta := min kDelayIncreaseUpperBound (max kDelayIncreaseLowerBound (lastSampledRtt / 16))
      if microsecondsMax - eta < lastSampledRtt then
        return h
      if kAckSampling ≤ h.ackCount then
        let currSampledRtt ← deref h.currSampledRtt
        if lastSampledRtt + eta ≤ currSampledRtt then
          return { h with found := .foundByDelayIncreaseMethod }
      return h

/-- The search for an exit point by an increase of the delay. -/
def searchDelayIncrease (h : HystartState) (lrtt : Int) : Except CubicFault HystartState :=
  if h.ackCount < kAckSampling then
    let h := { h with
      currSampledRtt := some (min lrtt (h.currSampledRtt.getD lrtt))
      ackCount := h.ackCount + 1 }
    if h.ackCount < kAckSampling then .ok h else searchSampled h
  else searchSampled h

/-- The `SCOPE_EXIT` of `onPacketAckedInHystart`. -/
def endHystartAck (cfg : CubicConfig) (c : Cubic δ) (ack : CubicAck)
    (exitReason : Option ExitReason) : Cubic δ :=
  let exitReason :=
    if c.hystartState.found ≠ .no ∧ kLowSsthreshInMss * cfg.udpSendPacketLen ≤ c.cwndBytes then
      some ExitReason.exitpoint
    else exitReason
  if exitReason.isSome then
    { c with
      hystartState := { c.hystartState with inRttRound := false, currSampledRtt := none }
      ssthresh := if c.experimental then c.ssthresh else c.cwndBytes
      steadyState := { c.steadyState with lastMaxCwndBytes := none, lastReductionTime := none }
      quiescenceStart := none
      state := .steady }
  else if c.hystartState.rttRoundEndTarget < ack.largestNewlyAckedPacketSentTime then
    { c with hystartState := { c.hystartState with inRttRound := false } }
  else c

def onPacketAckedInHystart (cfg : CubicConfig) (c : Cubic δ) (ack : CubicAck) (lrtt : Int)
    (now : TimePoint) : Except CubicFault (Cubic δ) := do
  let c := if c.hystartState.inRttRound then c else startHystartRttRound c ack.ackTime now
  if uint64Max - c.cwndBytes < ack.ackedBytes then
    throw .cwndOverflow
  let c := { c with cwndBytes := cfg.boundedCwnd (c.cwndBytes + ack.ackedBytes) }
  if c.ssthresh ≤ c.cwndBytes then
    return endHystartAck cfg c ack (some .ssthresh)
  if c.hystartState.found ≠ .no then
    return endHystartAck cfg c ack none
  let h := searchAckTrain c.hystartState ack.ackTime lrtt
  let h ← (if h.found = .no then searchDelayIncrease h lrtt else pure h)
  return endHystartAck cfg { c with hystartState := h } ack none

/-! ### Acknowledgements in `Steady` and `FastRecovery` -/

/-- `Steady` needs a window before the last reduction, and its distance. -/
def setOrigin (F : CubicFloat δ) (cfg : CubicConfig) (c : Cubic δ) :
    Except CubicFault (Cubic δ) :=
  match c.steadyState.lastMaxCwndBytes with
  | none =>
      .ok { c with steadyState := { c.steadyState with
        timeToOrigin := F.zero
        lastMaxCwndBytes := some c.cwndBytes
        originPoint := some c.cwndBytes
        estRenoCwnd :=
          if c.steadyState.tcpFriendly then c.cwndBytes else c.steadyState.estRenoCwnd } }
  | some lastMaxCwndBytes =>
      if c.steadyState.originPoint ≠ some lastMaxCwndBytes then updateTimeToOrigin F cfg c
      else .ok c

/-- The reduction that growth counts from: without one, the acknowledgement. -/
def setReductionTime (c : Cubic δ) (ackTime : TimePoint) : Cubic δ :=
  { c with steadyState := { c.steadyState with
    lastReductionTime := some (c.steadyState.lastReductionTime.getD ackTime) } }

/-- With the experimental setting, growth below `ssthresh` is at least a tenth of the bytes
acknowledged. -/
def experimentalCwnd (cfg : CubicConfig) (c : Cubic δ) (ackedBytes newCwnd : Nat) : Nat :=
  if c.experimental ∧ newCwnd < c.ssthresh ∧ newCwnd < u64 (c.cwndBytes + ackedBytes / 10) then
    cfg.boundedCwnd (u64 (c.cwndBytes + ackedBytes / 10))
  else newCwnd

/-- The estimate of the window of Reno. -/
def renoEstimation (F : CubicFloat δ) (cfg : CubicConfig) (c : Cubic δ) (ackedBytes : Nat) :
    Except CubicFault (Cubic δ) := do
  if c.steadyState.tcpFriendly ∧ ackedBytes ≠ 0 then
    if c.steadyState.estRenoCwnd = 0 then
      throw .divideByZero
    let estRenoCwnd := cfg.boundedCwnd
      (F.renoCwnd c.steadyState.estRenoCwnd ackedBytes cfg.udpSendPacketLen)
    return { c with
      steadyState := { c.steadyState with estRenoCwnd }
      cwndBytes := max c.cwndBytes estRenoCwnd }
  return c

def onPacketAckedInSteady (F : CubicFloat δ) (cfg : CubicConfig) (c : Cubic δ) (ack : CubicAck) :
    Except CubicFault (Cubic δ) := do
  if c.quiescenceStart.isSome then
    return c
  let c ← setOrigin F cfg c
  let c := setReductionTime c ack.ackTime
  let delta ← calculateCubicCwndDelta F cfg c ack.ackTime
  let newCwnd ← calculateCubicCwnd cfg c delta
  let newCwnd := experimentalCwnd cfg c ack.ackedBytes newCwnd
  renoEstimation F cfg { c with cwndBytes := max c.cwndBytes newCwnd } ack.ackedBytes

def onPacketAckedInRecovery (F : CubicFloat δ) (cfg : CubicConfig) (c : Cubic δ)
    (ack : CubicAck) : Except CubicFault (Cubic δ) := do
  if c.cwndBytes ≠ c.ssthresh then
    throw .cwndNotSsthresh
  match c.endOfRecovery with
  | none => throw .noEndOfRecovery
  | some endOfRecovery =>
      if endOfRecovery < ack.largestNewlyAckedPacketSentTime then
        let c ← updateTimeToOrigin F cfg { c with state := .steady }
        let delta ← calculateCubicCwndDelta F cfg c ack.ackTime
        let cwndBytes ← calculateCubicCwnd cfg c delta
        return { c with cwndBytes }
      return c

def onPacketAcked (F : CubicFloat δ) (cfg : CubicConfig) (c : Cubic δ) (ack : CubicAck)
    (lrtt : Int) (now : TimePoint) : Except CubicFault (Cubic δ) :=
  let c := { c with inflightBytes := sub64 c.inflightBytes ack.ackedBytes }
  if c.endOfRecovery.any fun endOfRecovery =>
      decide (ack.largestNewlyAckedPacketSentTime ≤ endOfRecovery) then
    .ok c
  else
    match c.state with
    | .hystart => onPacketAckedInHystart cfg c ack lrtt now
    | .steady => onPacketAckedInSteady F cfg c ack
    | .fastRecovery => onPacketAckedInRecovery F cfg c ack

/-! ### Events -/

/-- The loss comes first. -/
def onPacketAckOrLoss (F : CubicFloat δ) (cfg : CubicConfig) (c : Cubic δ)
    (ackEvent : Option CubicAck) (lossEvent : Option CubicLoss) (lrtt : Int)
    (lossClock ackClock : TimePoint) : Except CubicFault (Cubic δ) :=
  let c := match lossEvent with
    | some loss => onPacketLoss F cfg c loss lossClock
    | none => c
  match ackEvent with
  | some ack =>
      if ack.largestNewlyAckedPacket.isSome then
        if ack.ackedPackets = 0 then .error .noAckedPackets
        else onPacketAcked F cfg c ack lrtt ackClock
      else .ok c
  | none => .ok c

def onPacketSent (c : Cubic δ) (encodedSize : Nat) : Except CubicFault (Cubic δ) :=
  if uint64Max - c.inflightBytes < encodedSize then .error .inflightBytesOverflow
  else .ok { c with inflightBytes := c.inflightBytes + encodedSize }

def setAppIdle (c : Cubic δ) (idle : Bool) (eventTime : TimePoint) : Cubic δ :=
  match c.quiescenceStart with
  | none => if idle then { c with quiescenceStart := some eventTime } else c
  | some quiescenceStart =>
      if idle then c
      else
        { c with
          quiescenceStart := none
          steadyState := { c.steadyState with
            lastReductionTime := c.steadyState.lastReductionTime.map fun lastReductionTime =>
              if quiescenceStart ≤ eventTime then
                lastReductionTime + ceilMilliseconds (eventTime - quiescenceStart) * 1000000
              else lastReductionTime } }

def setExperimental (c : Cubic δ) (experimental : Bool) : Cubic δ := { c with experimental }

/-- The events of the controller. `lrtt` is the latest round-trip time of the connection, the
clocks are what `Clock::now()` returns in the two handlers. -/
inductive Event where
  | packetSent (encodedSize : Nat)
  | packetAckOrLoss (ackEvent : Option CubicAck) (lossEvent : Option CubicLoss) (lrtt : Int)
      (lossClock ackClock : TimePoint)
  | appIdle (idle : Bool) (eventTime : TimePoint)
  | experimental (enabled : Bool)

def step (F : CubicFloat δ) (cfg : CubicConfig) (c : Cubic δ) : Event → Except CubicFault (Cubic δ)
  | .packetSent encodedSize => onPacketSent c encodedSize
  | .packetAckOrLoss ackEvent lossEvent lrtt lossClock ackClock =>
      onPacketAckOrLoss F cfg c ackEvent lossEvent lrtt lossClock ackClock
  | .appIdle idle eventTime => .ok (setAppIdle c idle eventTime)
  | .experimental enabled => .ok (setExperimental c enabled)

end Cubic

end MasqueQuic
