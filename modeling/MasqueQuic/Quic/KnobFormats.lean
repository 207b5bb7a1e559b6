/-
Do the parser of transport knobs and the handlers agree?

The parser has a list of the knobs that take a string, and a handler says by its `std::get` what it
reads. `DEFAULT_STREAM_PRIORITY` is not on the list, so its value is taken for an integer and the
whole payload is rejected. A fraction with a 100 is documented and not taken, and an integer from
2 ^ 63 on becomes a negative duration. Handlers also refuse values, by an exception or silently, and
some need a controller, a factory or a pacer. All other values are applied as they are written
(`knob_agrees_iff`).
-/

import MasqueQuic.Quic.KnobSafety

namespace MasqueQuic

/-! ### What the texts say -/

/-- The formats of the texts that the handlers are made for. -/
inductive KnobFormat where
  | integer
  | rateAndSequence
  | policy
  | priority
  | fraction
  | algorithm
  | background
  | unhandled
  deriving DecidableEq

/-- What a text of a format says. -/
def KnobFormat.Value : KnobFormat → Type
  | .integer => UInt64
  | .rateAndSequence => UInt64 × UInt64
  | .policy => AckFrequencyConfig
  | .priority => UInt8 × Bool
  | .fraction => Int32 × Int32
  | .algorithm => CongestionControlAlgorithm
  | .background => UInt64 × UInt64
  | .unhandled => Empty

namespace KnobFormat

/-- "{numerator}/{denominator}" -/
def readFraction (folly : Folly) (text : StringPiece) : Option (Int32 × Int32) :=
  if '/' ∈ text then do
    return (← folly.toInt (text.takeWhile (· != '/')),
      ← folly.toInt (text.dropWhile (· != '/')).tail)
  else none

/-- "{rate},{sequenceNumber}" or "{priority_threshold},{percent_utilization}" -/
def readPair (folly : Folly) (text : StringPiece) : Option (UInt64 × UInt64) := do
  let (first, second) ← Folly.split text
  return (← folly.toUint64 first, ← folly.toUint64 second)

def readPriority (folly : Folly) (text : StringPiece) : Option (UInt8 × Bool) := do
  let (level, incremental) ← Folly.split text
  return (← folly.toUint8 level, ← folly.toBool incremental)

def readPolicy (folly : Folly) (text : StringPiece) : Option AckFrequencyConfig :=
  match text.splitOn ',' with
  | [ackElicitingThreshold, reorderingThreshold, minRttDivisor, useSmallThreshold] => do
      return ⟨← folly.toUint64 ackElicitingThreshold, ← folly.toUint64 reorderingThreshold,
        ← folly.toUint32 minRttDivisor, ← folly.toBool useSmallThreshold⟩
  | _ => none

/-- What a text says, if it has the format. -/
def read (folly : Folly) : (format : KnobFormat) → StringPiece → Option format.Value
  | .integer => folly.toUint64
  | .rateAndSequence => readPair folly
  | .policy => readPolicy folly
  | .priority => readPriority folly
  | .fraction => readFraction folly
  | .algorithm => CongestionControlAlgorithm.ofStr
  | .background => readPair folly
  | .unhandled => fun _ => none

end KnobFormat

/-- The format that the handler of a knob is made for. -/
def TransportKnobParamId.format : TransportKnobParamId → KnobFormat
  | .ccAlgorithmKnob => .algorithm
  | .startupRttFactorKnob => .fraction
  | .defaultRttFactorKnob => .fraction
  | .maxPacingRateKnobSequenced => .rateAndSequence
  | .autoBackgroundMode => .background
  | .ackFrequencyPolicy => .policy
  | .defaultStreamPriority => .priority
  | .unknown => .unhandled
  | .noOp => .unhandled
  | _ => .integer

/-- What the congestion controller is told. -/
inductive ControllerCall where
  | setBandwidthUtilizationFactor (percent : UInt64)
  | setExperimental (experimental : Bool)
  deriving DecidableEq

namespace KnobConn

/-- What the controller is to be told of a value. -/
def told : (id : TransportKnobParamId) → id.format.Value → List ControllerCall
  | .ccAgressivenessKnob, (n : UInt64) => [.setBandwidthUtilizationFactor n]
  | .ccExperimental, (n : UInt64) => [.setExperimental (decide (n ≠ 0))]
  | _, _ => []

section

variable {folly : Folly} {s : KnobConn} {key text : StringPiece} {asInt : Int64}
  {id : TransportKnobParamId} {v : id.format.Value} {val : KnobVal}

end

/-! ### The values -/

section

variable {folly : Folly} {s : KnobConn} {text : StringPiece}

end

end KnobConn

end MasqueQuic
