/-
Transport knobs (`quic/common/TransportKnobs.cpp`, `quic/server/QuicServerTransport.cpp`) and the
computations that use what they set (`quic/congestion_control/TokenlessPacer.cpp`).

A payload is the object that `folly::parseJson` yields, with the keys as strings and numbers left as
strings. `parseTransportKnobs` makes sorted parameters of it and each parameter goes to the handler of
its id. Where a handler would use a null pointer, or a computation a divisor of zero that comes from a knob,
the step stops with a `KnobFault`. Divisors that knobs do not set are not looked at, and products do not
overflow. An exception in a handler is caught behind it, so it leaves the state as it is then. The
statistics are left out, and so is what a congestion controller does with the factors that it is told.
-/

import Mathlib.Data.UInt
import MasqueQuic.Lib.Reader

namespace MasqueQuic

/-- A `std::string`. -/
abbrev StringPiece := List Char

/-- The conversions of a string to a number, `none` where they fail. -/
structure Folly where
  toInt64 : StringPiece → Option Int64
  toUint64 : StringPiece → Option UInt64
  toUint32 : StringPiece → Option UInt32
  toInt : StringPiece → Option Int32
  toUint8 : StringPiece → Option UInt8
  toBool : StringPiece → Option Bool

namespace Folly

/-- The number of a string of decimal digits. -/
def digits (s : StringPiece) : Option Nat :=
  if s.isEmpty || !s.all Char.isDigit then none
  else some (s.foldl (fun n c => 10 * n + (c.toNat - 48)) 0)

/-- The conversions on strings of decimal digits. -/
def decimal : Folly where
  toInt64 s := ((digits s).filter (· < 2 ^ 63)).map Int64.ofNat
  toUint64 s := ((digits s).filter (· < 2 ^ 64)).map UInt64.ofNat
  toUint32 s := ((digits s).filter (· < 2 ^ 32)).map UInt32.ofNat
  toInt s := ((digits s).filter (· < 2 ^ 31)).map Int32.ofNat
  toUint8 s := ((digits s).filter (· < 2 ^ 8)).map UInt8.ofNat
  toBool s := ((digits s).filter (· < 2)).map (· != 0)

/-- `folly::split` into two parts. -/
def split (s : StringPiece) : Option (StringPiece × StringPiece) :=
  match s.splitOn ',' with
  | [a, b] => some (a, b)
  | _ => none

end Folly

/-! ### Parameters -/

inductive TransportKnobParamId where
  | unknown
  | noOp
  | forciblySetUdpPayloadSize
  | ccAlgorithmKnob
  | ccAgressivenessKnob
  | ccExperimental
  | startupRttFactorKnob
  | defaultRttFactorKnob
  | notsentBufferSizeKnob
  | maxPacingRateKnob
  | autoBackgroundMode
  | adaptiveLossDetection
  | pacerExperimental
  | shortHeaderPaddingKnob
  | keepaliveEnabled
  | removeFromLossBuffer
  | maxPacingRateKnobSequenced
  | ackFrequencyPolicy
  | fireLoopEarly
  | pacingTimerTick
  | defaultStreamPriority
  | writeLoopTimeFraction
  | writesPerStream
  deriving DecidableEq

def TransportKnobParamId.fromIntegral : Nat → Option TransportKnobParamId
  | 0x0 => some .unknown
  | 0x1 => some .noOp
  | 0xba92 => some .forciblySetUdpPayloadSize
  | 0xccaa => some .ccAlgorithmKnob
  | 0xccab => some .ccAgressivenessKnob
  | 0xccac => some .ccExperimental
  | 0x1111 => some .startupRttFactorKnob
  | 0x2222 => some .defaultRttFactorKnob
  | 0x3333 => some .notsentBufferSizeKnob
  | 0x4444 => some .maxPacingRateKnob
  | 0x5555 => some .autoBackgroundMode
  | 0x5556 => some .adaptiveLossDetection
  | 0x5557 => some .pacerExperimental
  | 0x6666 => some .shortHeaderPaddingKnob
  | 0x7777 => some .keepaliveEnabled
  | 0x8888 => some .removeFromLossBuffer
  | 0x9999 => some .maxPacingRateKnobSequenced
  | 0x10000 => some .ackFrequencyPolicy
  | 0x10001 => some .fireLoopEarly
  | 0x10002 => some .pacingTimerTick
  | 0x10003 => some .defaultStreamPriority
  | 0x10004 => some .writeLoopTimeFraction
  | 0x10005 => some .writesPerStream
  | _ => none

/-- A value is a `uint64_t` or a string. -/
inductive KnobVal where
  | uint64 (val : UInt64)
  | string (val : StringPiece)
  deriving DecidableEq

structure TransportKnobParam where
  id : UInt64
  val : KnobVal
  deriving DecidableEq

namespace TransportKnobParam

def knobParamId (param : TransportKnobParam) : Option TransportKnobParamId :=
  TransportKnobParamId.fromIntegral param.id.toNat

/-- The order of the alternatives, then that of the values. -/
def valLt : KnobVal → KnobVal → Bool
  | .uint64 a, .uint64 b => decide (a < b)
  | .uint64 _, .string _ => true
  | .string _, .uint64 _ => false
  | .string a, .string b => decide (a < b)

def compareTransportKnobParam (lhs rhs : TransportKnobParam) : Bool :=
  if lhs.id ≠ rhs.id then decide (lhs.id < rhs.id) else valLt lhs.val rhs.val

end TransportKnobParam

/-! ### Congestion controllers -/

/-- The values of `CongestionControlType`, in order. -/
inductive CongestionControlAlgorithm where
  | cubic
  | newReno
  | copa
  | copa2
  | bbr
  | bbr2
  | bbrTesting
  | staticCwnd
  | none
  | max
  deriving DecidableEq

namespace CongestionControlAlgorithm

def toUint64 : CongestionControlAlgorithm → UInt64
  | .cubic => 0
  | .newReno => 1
  | .copa => 2
  | .copa2 => 3
  | .bbr => 4
  | .bbr2 => 5
  | .bbrTesting => 6
  | .staticCwnd => 7
  | .none => 8
  | .max => 9

/-- The cast of a value that the parser lets through. Others do not come. -/
def ofUint64 (val : UInt64) : CongestionControlAlgorithm :=
  match val.toNat with
  | 0 => .cubic
  | 1 => .newReno
  | 2 => .copa
  | 3 => .copa2
  | 4 => .bbr
  | 5 => .bbr2
  | 6 => .bbrTesting
  | 7 => .staticCwnd
  | 8 => .none
  | _ => .max

/-- `congestionControlStrToType`. -/
def ofStr (str : StringPiece) : Option CongestionControlAlgorithm :=
  if str = ['c', 'u', 'b', 'i', 'c'] then some .cubic
  else if str = ['b', 'b', 'r', '2'] then some .bbr2
  else if str = ['b', 'b', 'r'] then some .bbr
  else if str = ['b', 'b', 'r', '_', 't', 'e', 's', 't', 'i', 'n', 'g'] then some .bbrTesting
  else if str = ['c', 'o', 'p', 'a'] then some .copa
  else if str = ['c', 'o', 'p', 'a', '2'] then some .copa2
  else if str = ['n', 'e', 'w', 'r', 'e', 'n', 'o'] then some .newReno
  else if str = ['s', 't', 'a', 't', 'i', 'c', 'c', 'w', 'n', 'd'] then some .staticCwnd
  else if str = ['n', 'o', 'n', 'e'] then some .none
  else Option.none

end CongestionControlAlgorithm

/-- What `type()` of a controller returns. `BbrTestingCongestionController` has that of its base
class. -/
def CongestionControlAlgorithm.type : CongestionControlAlgorithm → CongestionControlAlgorithm
  | .bbrTesting => .bbr
  | algorithm => algorithm

/-- The controllers that refresh the pacing rate. BBR does it in `updatePacing`. -/
def CongestionControlAlgorithm.paces : CongestionControlAlgorithm → Bool
  | .cubic => true
  | .copa => true
  | .copa2 => true
  | .bbr2 => true
  | _ => false

inductive CongestionControllerFactory where
  | default
  | server
  deriving DecidableEq

/-- The controller that is made. `error` is an exception and `ok none` the null pointer. The default
factory cannot make BBR for testing and falls back to BBR. -/
def CongestionControllerFactory.makeCongestionController : CongestionControllerFactory →
    CongestionControlAlgorithm → Except Unit (Option CongestionControlAlgorithm)
  | .default, .bbrTesting => .ok (some .bbr)
  | _, .staticCwnd => .error ()
  | _, .none => .ok none
  | _, .max => .error ()
  | _, type => .ok (some type)

/-! ### Parsing -/

inductive JsonValue where
  | bool (val : Bool)
  | string (val : StringPiece)
  /-- An array, an object or null. -/
  | other
  deriving DecidableEq

namespace TransportKnobs

def kKnobFractionMax : UInt64 := 100

def kPriorityThresholdKnobMultiplier : UInt64 := 1000

def kDefaultMaxPriority : UInt64 := 7

/-- A numerator or a denominator. A negative number becomes a large one. -/
def fractionPart (folly : Folly) (s : StringPiece) : UInt64 :=
  match folly.toInt s with
  | some n => n.toInt64.toUInt64
  | none => kKnobFractionMax

/-- "{numerator}/{denominator}", packed into one number. -/
def parseRttFactor (folly : Folly) (s : StringPiece) : Option UInt64 :=
  if '/' ∈ s then
    let numerator := fractionPart folly (s.takeWhile (· != '/'))
    let denominator := fractionPart folly (s.dropWhile (· != '/')).tail
    if numerator ≤ 0 ∨ denominator ≤ 0 ∨ numerator ≥ kKnobFractionMax ∨
        denominator ≥ kKnobFractionMax then none
    else some (numerator * kKnobFractionMax + denominator)
  else none

/-- "{priority_threshold},{percent_utilization}", packed into one number. -/
def parseAutoBackgroundMode (folly : Folly) (s : StringPiece) : Option UInt64 := do
  let (priorityThresholdStr, utilizationPercentStr) ← Folly.split s
  let priorityThreshold := (folly.toUint64 priorityThresholdStr).getD (kDefaultMaxPriority + 1)
  let utilizationPercent := (folly.toUint64 utilizationPercentStr).getD 101
  if priorityThreshold > kDefaultMaxPriority ∨ utilizationPercent < 25 ∨ utilizationPercent > 100 then
    none
  else some (priorityThreshold * kPriorityThresholdKnobMultiplier + utilizationPercent)

/-- The switch over the id of a parameter with a string. `some none` is a parameter that is
skipped. -/
def parseString (folly : Folly) (val : StringPiece) :
    Option TransportKnobParamId → Option (Option KnobVal)
  | some .maxPacingRateKnobSequenced => some (some (.string val))
  | some .ccAlgorithmKnob =>
      (CongestionControlAlgorithm.ofStr val).map fun cctype => some (.uint64 cctype.toUint64)
  | some .startupRttFactorKnob => (parseRttFactor folly val).map fun factor => some (.uint64 factor)
  | some .defaultRttFactorKnob => (parseRttFactor folly val).map fun factor => some (.uint64 factor)
  | some .autoBackgroundMode =>
      (parseAutoBackgroundMode folly val).map fun combined => some (.uint64 combined)
  | some .noOp => some none
  | some .ackFrequencyPolicy => some (some (.string val))
  | _ => (folly.toUint64 val).map fun expectAsInt => some (.uint64 expectAsInt)

def parseVal (folly : Folly) (paramId : UInt64) : JsonValue → Option (Option KnobVal)
  | .bool val => some (some (.uint64 (if val then 1 else 0)))
  | .string val => parseString folly val (TransportKnobParamId.fromIntegral paramId.toNat)
  | .other => none

def parseParam (folly : Folly) (entry : StringPiece × JsonValue) : Option (Option TransportKnobParam) := do
  let asInt ← folly.toInt64 entry.1
  -- a negative number does not fit
  if asInt < 0 then none
  else
    let paramId := asInt.toUInt64
    let val ← parseVal folly paramId entry.2
    return val.map fun val => ⟨paramId, val⟩

def parseTransportKnobs (folly : Folly) (payload : List (StringPiece × JsonValue)) :
    Option (List TransportKnobParam) := do
  let knobParams ← payload.mapM (parseParam folly)
  return knobParams.reduceOption.insertionSort fun a b =>
    TransportKnobParam.compareTransportKnobParam b a = false

end TransportKnobs

/-! ### The connection -/

/-- What the process cannot survive. -/
inductive KnobFault where
  | nullCongestionController
  | nullCongestionControllerFactory
  | divisionByZero
  deriving DecidableEq

structure AckFrequencyConfig where
  ackElicitingThreshold : UInt64
  reorderingThreshold : UInt64
  minRttDivisor : UInt32
  useSmallThresholdDuringStartup : Bool
  deriving DecidableEq

/-- The settings that knobs change and those that the pacer reads. Intervals are in microseconds. -/
structure KnobSettings where
  writeConnectionDataPacketsLimit : Nat
  minBurstPackets : Nat
  pacingTickInterval : Int
  startupRttFactor : UInt8 × UInt8
  defaultRttFactor : UInt8 × UInt8
  totalBufferSpaceAvailable : UInt64
  paddingModulo : Nat
  writeLimitRttFraction : Int
  priorityQueueWritesPerStream : Nat
  useAdaptiveLossReorderingThresholds : Bool
  enableKeepalive : Bool
  ackFrequencyConfig : Option AckFrequencyConfig
  defaultPriority : UInt8 × Bool
  deriving DecidableEq

/-- The settings of a connection that nobody has changed. -/
def KnobSettings.default : KnobSettings where
  writeConnectionDataPacketsLimit := 5
  minBurstPackets := 5
  pacingTickInterval := 1000
  startupRttFactor := (1, 2)
  defaultRttFactor := (4, 5)
  totalBufferSpaceAvailable := 2 ^ 64 - 1
  paddingModulo := 32
  writeLimitRttFraction := 25
  priorityQueueWritesPerStream := 1
  useAdaptiveLossReorderingThresholds := false
  enableKeepalive := false
  ackFrequencyConfig := none
  defaultPriority := (3, true)

structure TokenlessPacer where
  minCwndInMss : Nat
  batchSize : Nat
  maxPacingRateBytesPerSec : Nat
  writeInterval : Int
  lastWriteTime : Option Nat
  rttFactorNumerator : UInt8
  rttFactorDenominator : UInt8
  experimental : Bool
  deriving DecidableEq

/-- `congestionController` is the class of the controller, if there is one. The transport parameters
leave no packet length of zero. `nextsSoFar` is that of a level of the
write queue with incremental streams. -/
structure KnobConn where
  congestionController : Option CongestionControlAlgorithm
  congestionControllerFactory : Option CongestionControllerFactory
  pacer : Option TokenlessPacer
  transportSettings : KnobSettings
  udpSendPacketLen : Nat
  peerMaxUdpPayloadSize : Nat
  lastMaxRateBytesPerSec : UInt64
  frameOutOfOrderDetected : Bool
  maybeLastMaxPacingRateKnobSeqNum : Option UInt64
  backgroundMode : Option (UInt64 × UInt64)
  fireLoopEarly : Bool
  maxNextsPerStream : Nat
  nextsSoFar : Nat
  udpSendPacketLen_pos : 0 < udpSendPacketLen
  peerMaxUdpPayloadSize_pos : 0 < peerMaxUdpPayloadSize

/-! ### The pacer -/

namespace TokenlessPacer

def new (settings : KnobSettings) (minCwndInMss : Nat) : TokenlessPacer where
  minCwndInMss
  batchSize := settings.writeConnectionDataPacketsLimit
  maxPacingRateBytesPerSec := 2 ^ 64 - 1
  writeInterval := 0
  lastWriteTime := none
  rttFactorNumerator := 1
  rttFactorDenominator := 1
  experimental := false

def kDefaultMinRtt : Nat := 2 ^ 63 - 1

def uint64Limit : Nat := 2 ^ 64 - 1

/-- The interval and the burst size. The quotient of doubles is taken exactly. -/
def calculatePacingRate (settings : KnobSettings) (udpSendPacketLen cwnd minCwndInMss : Nat) (rtt : Nat) :
    Except KnobFault (Int × Nat) :=
  if settings.pacingTickInterval > rtt then
    .ok (0, settings.writeConnectionDataPacketsLimit)
  else if rtt = 0 then .error .divisionByZero
  else
    let cwndInPackets := max minCwndInMss (cwnd / udpSendPacketLen)
    let burstPerInterval := max settings.minBurstPackets
      (-(-(cwndInPackets * settings.pacingTickInterval) / (rtt : Int))).toNat
    .ok (max settings.pacingTickInterval (rtt * burstPerInterval / cwndInPackets : Nat),
      burstPerInterval)

/-- Both ways of setting the rate end so. -/
def resetLastWrite (p : TokenlessPacer) : TokenlessPacer :=
  if p.experimental then p else { p with lastWriteTime := none }

def setPacingRate (settings : KnobSettings) (udpSendPacketLen : Nat) (p : TokenlessPacer)
    (rateBps : Nat) : TokenlessPacer :=
  let rateBps := min rateBps p.maxPacingRateBytesPerSec
  if rateBps = 0 then
    { p with batchSize := 0, writeInterval := settings.pacingTickInterval }.resetLastWrite
  else
    let batchSize := settings.writeConnectionDataPacketsLimit
    let interval := batchSize * udpSendPacketLen * 1000000 / rateBps
    { p with
      batchSize
      writeInterval := max (interval : Int) settings.pacingTickInterval }.resetLastWrite

def targetRateBytesPerSec (cwndBytes rtt : Nat) : Nat :=
  if rtt = 0 then uint64Limit else cwndBytes * 1000000 / rtt

def refreshPacingRate (settings : KnobSettings) (udpSendPacketLen : Nat) (p : TokenlessPacer)
    (cwndBytes rtt : Nat) : Except KnobFault TokenlessPacer :=
  if rtt = kDefaultMinRtt then .ok p
  else if targetRateBytesPerSec cwndBytes rtt > p.maxPacingRateBytesPerSec then
    .ok (p.setPacingRate settings udpSendPacketLen p.maxPacingRateBytesPerSec)
  else if rtt < settings.pacingTickInterval then
    .ok { p with
      writeInterval := 0
      batchSize := settings.writeConnectionDataPacketsLimit }.resetLastWrite
  else if p.rttFactorDenominator = 0 then .error .divisionByZero
  else do
    let rtt := rtt * p.rttFactorNumerator.toNat / p.rttFactorDenominator.toNat
    let pacingRate ← calculatePacingRate settings udpSendPacketLen cwndBytes p.minCwndInMss rtt
    return { p with writeInterval := pacingRate.1, batchSize := pacingRate.2 }.resetLastWrite

def currentRateBytesPerSec (p : TokenlessPacer) (udpSendPacketLen : Nat) : Int :=
  if p.writeInterval = 0 then uint64Limit
  else p.batchSize * udpSendPacketLen * 1000000 / p.writeInterval

def setMaxPacingRate (settings : KnobSettings) (udpSendPacketLen : Nat) (p : TokenlessPacer)
    (maxRateBytesPerSec : Nat) : TokenlessPacer :=
  let p := { p with maxPacingRateBytesPerSec := maxRateBytesPerSec }
  if p.currentRateBytesPerSec udpSendPacketLen > p.maxPacingRateBytesPerSec then
    p.setPacingRate settings udpSendPacketLen p.maxPacingRateBytesPerSec
  else p

def setRttFactor (p : TokenlessPacer) (factor : UInt8 × UInt8) : TokenlessPacer :=
  { p with rttFactorNumerator := factor.1, rttFactorDenominator := factor.2 }

def maxBurstIntervals : Nat := 5

/-- The batch. `isAppLimited` is the answer of the congestion controller, if there is one. -/
def sendBatch (p : TokenlessPacer) (isAppLimited : Option Bool) (currentTime : Nat) :
    Except KnobFault Nat :=
  match p.lastWriteTime with
  | some lastWriteTime =>
      if p.writeInterval > 0 ∧ isAppLimited = some false ∧ p.experimental then
        let timeSinceLastWrite := currentTime - lastWriteTime
        let writeInterval := p.writeInterval.toNat
        if writeInterval = 0 then .error .divisionByZero
        else if timeSinceLastWrite / writeInterval ≥ maxBurstIntervals then
          .ok (p.batchSize * maxBurstIntervals)
        else .ok (p.batchSize * timeSinceLastWrite / writeInterval)
      else .ok p.batchSize
  | none => .ok p.batchSize

def updateAndGetWriteBatchSize (p : TokenlessPacer) (isAppLimited : Option Bool) (currentTime : Nat) :
    Except KnobFault (TokenlessPacer × Nat) := do
  let sendBatch ← p.sendBatch isAppLimited currentTime
  return ({ p with lastWriteTime := some currentTime }, sendBatch)

end TokenlessPacer

/-! ### Handlers -/

namespace KnobConn

/-- `std::get<uint64_t>`. With a string it throws. -/
def withUint64 (s : KnobConn) (val : KnobVal) (k : UInt64 → Except KnobFault KnobConn) :
    Except KnobFault KnobConn :=
  match val with
  | .uint64 val => k val
  | .string _ => .ok s

/-- `std::get<std::string>`. -/
def withString (s : KnobConn) (val : KnobVal) (k : StringPiece → Except KnobFault KnobConn) :
    Except KnobFault KnobConn :=
  match val with
  | .uint64 _ => .ok s
  | .string val => k val

/-- The settings change. -/
def set (s : KnobConn) (f : KnobSettings → KnobSettings) : Except KnobFault KnobConn :=
  .ok { s with transportSettings := f s.transportSettings }

/-- `QuicTransportBase::setMaxPacingRate`. Without a pacer it is an error that is not looked at. -/
def setMaxPacingRate (s : KnobConn) (maxRateBytesPerSec : UInt64) : KnobConn :=
  { s with pacer := s.pacer.map fun p =>
      p.setMaxPacingRate s.transportSettings s.udpSendPacketLen maxRateBytesPerSec.toNat }

def onForciblySetUdpPayloadSize (s : KnobConn) (val : KnobVal) : Except KnobFault KnobConn :=
  s.withUint64 val fun val =>
    .ok (if val ≠ 0 then
      { s with
        udpSendPacketLen := s.peerMaxUdpPayloadSize
        udpSendPacketLen_pos := s.peerMaxUdpPayloadSize_pos }
    else s)

def onCcAlgorithmKnob (s : KnobConn) (val : KnobVal) : Except KnobFault KnobConn :=
  s.withUint64 val fun val =>
    let cctype := CongestionControlAlgorithm.ofUint64 val
    match s.congestionController with
    | none => .error .nullCongestionController
    | some controller =>
        if cctype = controller.type then .ok s
        else
          match s.congestionControllerFactory with
          | none => .error .nullCongestionControllerFactory
          | some factory =>
              match factory.makeCongestionController cctype with
              | .error _ => .ok s
              | .ok congestionController => .ok { s with congestionController }

/-- `setBandwidthUtilizationFactor` is called on the controller. -/
def onCcAgressivenessKnob (s : KnobConn) (val : KnobVal) : Except KnobFault KnobConn :=
  s.withUint64 val fun val =>
    if val < 25 ∨ val > 100 then .ok s
    else
      match s.congestionController with
      | none => .error .nullCongestionController
      | some _ => .ok s

/-- The packed fraction. -/
def unpackRttFactor (val : UInt64) : UInt8 × UInt8 :=
  let numerator := (val / 100).toUInt8
  let denominator := (val - numerator.toUInt64 * 100).toUInt8
  (numerator, denominator)

def onStartupRttFactorKnob (s : KnobConn) (val : KnobVal) : Except KnobFault KnobConn :=
  s.withUint64 val fun val => s.set ({ · with startupRttFactor := unpackRttFactor val })

def onDefaultRttFactorKnob (s : KnobConn) (val : KnobVal) : Except KnobFault KnobConn :=
  s.withUint64 val fun val => s.set ({ · with defaultRttFactor := unpackRttFactor val })

def onNotsentBufferSizeKnob (s : KnobConn) (val : KnobVal) : Except KnobFault KnobConn :=
  s.withUint64 val fun val => s.set ({ · with totalBufferSpaceAvailable := val })

def noPacing : UInt64 := 0xFFFFFFFFFFFFFFFF

def onMaxPacingRateKnob (s : KnobConn) (val : KnobVal) : Except KnobFault KnobConn :=
  s.withUint64 val fun val =>
    if s.frameOutOfOrderDetected then .ok s
    else if s.lastMaxRateBytesPerSec = noPacing ∧ s.lastMaxRateBytesPerSec = val then
      .ok { s with frameOutOfOrderDetected := true }
    else .ok { s.setMaxPacingRate val with lastMaxRateBytesPerSec := val }

def onMaxPacingRateKnobSequenced (folly : Folly) (s : KnobConn) (val : KnobVal) :
    Except KnobFault KnobConn :=
  s.withString val fun val =>
    match Folly.split val with
    | none => .ok s
    | some (rateBytesPerSecStr, seqNumStr) =>
        match folly.toUint64 rateBytesPerSecStr, folly.toUint64 seqNumStr with
        | some rateBytesPerSec, some expectedSeqNum =>
            if s.maybeLastMaxPacingRateKnobSeqNum.any (· ≥ expectedSeqNum) then .ok s
            else .ok { s.setMaxPacingRate rateBytesPerSec with
              maybeLastMaxPacingRateKnobSeqNum := some expectedSeqNum }
        | _, _ => .ok s

/-- The priority threshold and the utilization in percent. -/
def onAutoBackgroundMode (s : KnobConn) (val : KnobVal) : Except KnobFault KnobConn :=
  s.withUint64 val fun val =>
    .ok { s with backgroundMode := some (val / TransportKnobs.kPriorityThresholdKnobMultiplier,
      val % TransportKnobs.kPriorityThresholdKnobMultiplier) }

/-- Only a controller that is there is told. -/
def onCcExperimental (s : KnobConn) (val : KnobVal) : Except KnobFault KnobConn :=
  match s.congestionController with
  | none => .ok s
  | some _ => s.withUint64 val fun _ => .ok s

def onShortHeaderPaddingKnob (s : KnobConn) (val : KnobVal) : Except KnobFault KnobConn :=
  s.withUint64 val fun val => s.set ({ · with paddingModulo := val.toNat })

def onAdaptiveLossDetection (s : KnobConn) (val : KnobVal) : Except KnobFault KnobConn :=
  s.withUint64 val fun val =>
    s.set ({ · with useAdaptiveLossReorderingThresholds := decide (val ≠ 0) })

def onPacerExperimental (s : KnobConn) (val : KnobVal) : Except KnobFault KnobConn :=
  match s.pacer with
  | none => .ok s
  | some pacer =>
      s.withUint64 val fun val =>
        .ok { s with pacer := some { pacer with experimental := decide (val ≠ 0) } }

def onKeepaliveEnabled (s : KnobConn) (val : KnobVal) : Except KnobFault KnobConn :=
  s.withUint64 val fun val => s.set ({ · with enableKeepalive := decide (val ≠ 0) })

/-- Disabled. -/
def onRemoveFromLossBuffer (s : KnobConn) (val : KnobVal) : Except KnobFault KnobConn :=
  s.withUint64 val fun _ => .ok s

def onAckFrequencyPolicy (folly : Folly) (s : KnobConn) (val : KnobVal) : Except KnobFault KnobConn :=
  s.withString val fun val =>
    match val.splitOn ',' with
    | [ackElicitingThreshold, reorderingThreshold, minRttDivisor, useSmallThreshold] =>
        match folly.toUint64 ackElicitingThreshold, folly.toUint64 reorderingThreshold,
            folly.toUint32 minRttDivisor, folly.toBool useSmallThreshold with
        | some ackElicitingThreshold, some reorderingThreshold, some minRttDivisor,
            some useSmallThresholdDuringStartup =>
            if ackElicitingThreshold > 1 ∧ reorderingThreshold > 1 ∧ minRttDivisor > 0 then
              s.set ({ · with ackFrequencyConfig := some ⟨ackElicitingThreshold, reorderingThreshold,
                minRttDivisor, useSmallThresholdDuringStartup⟩ })
            else .ok s
        | _, _, _, _ => .ok s
    | _ => .ok s

def onFireLoopEarly (s : KnobConn) (val : KnobVal) : Except KnobFault KnobConn :=
  s.withUint64 val fun val => .ok { s with fireLoopEarly := decide (val ≠ 0) }

/-- The count of a duration is signed. -/
def onPacingTimerTick (s : KnobConn) (val : KnobVal) : Except KnobFault KnobConn :=
  s.withUint64 val fun val => s.set ({ · with pacingTickInterval := val.toInt64.toInt })

/-- The level has three bits. -/
def onDefaultStreamPriority (folly : Folly) (s : KnobConn) (val : KnobVal) :
    Except KnobFault KnobConn :=
  s.withString val fun val =>
    match Folly.split val with
    | none => .ok s
    | some (level, incremental) =>
        match folly.toUint8 level, folly.toBool incremental with
        | some level, some incremental =>
            s.set ({ · with defaultPriority := (level % 8, incremental) })
        | _, _ => .ok s

def onWriteLoopTimeFraction (s : KnobConn) (val : KnobVal) : Except KnobFault KnobConn :=
  s.withUint64 val fun val => s.set ({ · with writeLimitRttFraction := val.toInt64.toInt })

def onWritesPerStream (s : KnobConn) (val : KnobVal) : Except KnobFault KnobConn :=
  s.withUint64 val fun val => do
    let s ← s.set ({ · with priorityQueueWritesPerStream := val.toNat })
    return { s with maxNextsPerStream := val.toNat }

/-- `registerAllTransportKnobParamHandlers`. Ids without a handler are ignored. -/
def handler (folly : Folly) (s : KnobConn) :
    Option TransportKnobParamId → KnobVal → Except KnobFault KnobConn
  | some .forciblySetUdpPayloadSize => s.onForciblySetUdpPayloadSize
  | some .ccAlgorithmKnob => s.onCcAlgorithmKnob
  | some .ccAgressivenessKnob => s.onCcAgressivenessKnob
  | some .startupRttFactorKnob => s.onStartupRttFactorKnob
  | some .defaultRttFactorKnob => s.onDefaultRttFactorKnob
  | some .notsentBufferSizeKnob => s.onNotsentBufferSizeKnob
  | some .maxPacingRateKnob => s.onMaxPacingRateKnob
  | some .maxPacingRateKnobSequenced => onMaxPacingRateKnobSequenced folly s
  | some .autoBackgroundMode => s.onAutoBackgroundMode
  | some .ccExperimental => s.onCcExperimental
  | some .shortHeaderPaddingKnob => s.onShortHeaderPaddingKnob
  | some .adaptiveLossDetection => s.onAdaptiveLossDetection
  | some .pacerExperimental => s.onPacerExperimental
  | some .keepaliveEnabled => s.onKeepaliveEnabled
  | some .removeFromLossBuffer => s.onRemoveFromLossBuffer
  | some .ackFrequencyPolicy => onAckFrequencyPolicy folly s
  | some .fireLoopEarly => s.onFireLoopEarly
  | some .pacingTimerTick => s.onPacingTimerTick
  | some .defaultStreamPriority => onDefaultStreamPriority folly s
  | some .writeLoopTimeFraction => s.onWriteLoopTimeFraction
  | some .writesPerStream => s.onWritesPerStream
  | some .unknown => fun _ => .ok s
  | some .noOp => fun _ => .ok s
  | none => fun _ => .ok s

def handleParam (folly : Folly) (s : KnobConn) (param : TransportKnobParam) :
    Except KnobFault KnobConn :=
  s.handler folly param.knobParamId param.val

def handleTransportKnobParams (folly : Folly) (s : KnobConn) (params : List TransportKnobParam) :
    Except KnobFault KnobConn :=
  params.foldlM (handleParam folly) s

/-- A payload that cannot be parsed is ignored. -/
def onTransportKnobs (folly : Folly) (s : KnobConn) (payload : List (StringPiece × JsonValue)) :
    Except KnobFault KnobConn :=
  match TransportKnobs.parseTransportKnobs folly payload with
  | some params => s.handleTransportKnobParams folly params
  | none => .ok s

/-! ### Using the values -/

def refreshPacingRate (s : KnobConn) (cwndBytes rtt : Nat) : Except KnobFault KnobConn :=
  match s.pacer with
  | none => .ok s
  | some pacer => do
      let pacer ← pacer.refreshPacingRate s.transportSettings s.udpSendPacketLen cwndBytes rtt
      return { s with pacer := some pacer }

/-- `BbrCongestionController::updatePacing`, once there is a bandwidth. -/
def bbrUpdatePacing (s : KnobConn) (startup : Bool) (pacingWindow mrtt : Nat) :
    Except KnobFault KnobConn :=
  let factor := if startup then s.transportSettings.startupRttFactor
    else s.transportSettings.defaultRttFactor
  let s : KnobConn := { s with pacer := s.pacer.map fun p => p.setRttFactor factor }
  s.refreshPacingRate pacingWindow mrtt

/-- How many bytes of padding a short header packet gets. -/
def paddingIncrement (s : KnobConn) (remainingSpace : Nat) : Except KnobFault Nat :=
  let paddingModulo := s.transportSettings.paddingModulo
  if paddingModulo > 0 then
    if paddingModulo = 0 then .error .divisionByZero else .ok (remainingSpace % paddingModulo)
  else .ok 0

def writeLoopTimeLimit (s : KnobConn) (srtt elapsed : Nat) : Except KnobFault Bool :=
  if srtt = 0 ∨ s.transportSettings.writeLimitRttFraction = 0 then .ok true
  else if s.transportSettings.writeLimitRttFraction = 0 then .error .divisionByZero
  else .ok (decide ((elapsed : Int) < (srtt : Int).tdiv s.transportSettings.writeLimitRttFraction))

/-- `IncrementalIterator::next`, as far as the counter goes: whether the iterator moves on. -/
def next (s : KnobConn) (force : Bool) : KnobConn × Bool :=
  if !force && decide (s.nextsSoFar + 1 < s.maxNextsPerStream) then
    ({ s with nextsSoFar := s.nextsSoFar + 1 }, false)
  else ({ s with nextsSoFar := 0 }, true)

end KnobConn

/-- A connection with default settings that paces. -/
def KnobConn.new (congestionController : CongestionControlAlgorithm)
    (factory : CongestionControllerFactory) : KnobConn where
  congestionController := some congestionController
  congestionControllerFactory := some factory
  pacer := some (.new .default 2)
  transportSettings := .default
  udpSendPacketLen := 1252
  peerMaxUdpPayloadSize := 1252
  lastMaxRateBytesPerSec := noPacing
  frameOutOfOrderDetected := false
  maybeLastMaxPacingRateKnobSeqNum := none
  backgroundMode := none
  fireLoopEarly := false
  maxNextsPerStream := 1
  nextsSoFar := 0
  udpSendPacketLen_pos := by decide
  peerMaxUdpPayloadSize_pos := by decide

/-- What happens to the connection. Acks refresh the pacing rate, BBR with its own factor first. -/
inductive KnobEvent where
  | knobs (payload : List (StringPiece × JsonValue))
  | updatePacing (startup : Bool) (pacingWindow mrtt : Nat)
  | refreshPacingRate (cwndBytes rtt : Nat)
  | writeBatch (isAppLimited : Bool) (currentTime : Nat)
  | schedulePacket (remainingSpace : Nat)
  | writeLoop (srtt elapsed : Nat)
  | nextStream (force : Bool)

namespace KnobConn

def step (folly : Folly) (s : KnobConn) : KnobEvent → Except KnobFault KnobConn
  | .knobs payload => s.onTransportKnobs folly payload
  | .updatePacing startup pacingWindow mrtt =>
      if s.congestionController.map (·.type) = some .bbr then s.bbrUpdatePacing startup pacingWindow
        mrtt
      else .ok s
  | .refreshPacingRate cwndBytes rtt =>
      if s.congestionController.any (·.paces) then s.refreshPacingRate cwndBytes rtt else .ok s
  | .writeBatch isAppLimited currentTime =>
      match s.pacer with
      | none => .ok s
      | some pacer => do
          let result ← pacer.updateAndGetWriteBatchSize
            (s.congestionController.map fun _ => isAppLimited) currentTime
          return { s with pacer := some result.1 }
  | .schedulePacket remainingSpace => do
      let _ ← s.paddingIncrement remainingSpace
      return s
  | .writeLoop srtt elapsed => do
      let _ ← s.writeLoopTimeLimit srtt elapsed
      return s
  | .nextStream force => .ok (s.next force).1

end KnobConn

end MasqueQuic
