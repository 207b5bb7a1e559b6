/-
Which runs survive the knobs of the client.

`run_ok_iff` says it exactly: the steps of a run all succeed if and only if each of them meets `StepOk`.
A knob for the congestion controller must find one, and one for another algorithm a factory. While the
pacer computes a rate, the denominator of its rtt factor must not be zero, nor may the tick be zero or
less when the scaled rtt is zero. Both the algorithm "none" and a factor of type boolean lead there.
Without such knobs and with a positive tick every run is safe (`run_ok_of_harmless`).
-/

import MasqueQuic.Lib.Ends
import MasqueQuic.Lib.Run
import MasqueQuic.Quic.TransportKnobs

namespace MasqueQuic

/-! ### The pacer -/

namespace TokenlessPacer

variable {settings : KnobSettings} {udpSendPacketLen cwndBytes rtt : Nat} {p : TokenlessPacer}

/-- A rate is computed from the scaled rtt. -/
def ScalesRtt (settings : KnobSettings) (p : TokenlessPacer) (cwndBytes rtt : Nat) : Prop :=
  rtt ≠ kDefaultMinRtt ∧ targetRateBytesPerSec cwndBytes rtt ≤ p.maxPacingRateBytesPerSec ∧
    settings.pacingTickInterval ≤ rtt

/-- The factor can be applied, and the scaled rtt is not less than the tick where it is zero. -/
def FactorOk (settings : KnobSettings) (p : TokenlessPacer) (rtt : Nat) : Prop :=
  p.rttFactorDenominator ≠ 0 ∧ (0 < settings.pacingTickInterval ∨
    p.rttFactorDenominator.toNat ≤ rtt * p.rttFactorNumerator.toNat)

def RefreshOk (settings : KnobSettings) (p : TokenlessPacer) (cwndBytes rtt : Nat) : Prop :=
  ScalesRtt settings p cwndBytes rtt → FactorOk settings p rtt

theorem calculatePacingRate_ok_iff {cwnd minCwndInMss : Nat} :
    (∃ rate, calculatePacingRate settings udpSendPacketLen cwnd minCwndInMss rtt = .ok rate) ↔
      0 < settings.pacingTickInterval ∨ 0 < rtt := by
  unfold calculatePacingRate
  by_cases htick : settings.pacingTickInterval > rtt
  · rw [if_pos htick]
    exact ⟨fun _ => .inl (by omega), fun _ => ⟨_, rfl⟩⟩
  · rw [if_neg htick]
    by_cases hrtt : rtt = 0
    · rw [if_pos hrtt]
      constructor
      · rintro ⟨rate, h⟩
        cases h
      · intro h
        omega
    · rw [if_neg hrtt]
      exact ⟨fun _ => .inr (Nat.pos_of_ne_zero hrtt), fun _ => ⟨_, rfl⟩⟩

theorem refreshPacingRate_ok_iff :
    (∃ p', p.refreshPacingRate settings udpSendPacketLen cwndBytes rtt = .ok p') ↔
      RefreshOk settings p cwndBytes rtt := by
  unfold refreshPacingRate RefreshOk ScalesRtt
  by_cases hdefault : rtt = kDefaultMinRtt
  · rw [if_pos hdefault]
    exact ⟨fun _ h => absurd hdefault h.1, fun _ => ⟨_, rfl⟩⟩
  · rw [if_neg hdefault]
    by_cases htarget : targetRateBytesPerSec cwndBytes rtt > p.maxPacingRateBytesPerSec
    · rw [if_pos htarget]
      exact ⟨fun _ h => absurd h.2.1 (Nat.not_le.mpr htarget), fun _ => ⟨_, rfl⟩⟩
    · rw [if_neg htarget]
      by_cases htick : rtt < settings.pacingTickInterval
      · rw [if_pos htick]
        exact ⟨fun _ h => absurd h.2.2 (by omega), fun _ => ⟨_, rfl⟩⟩
      · rw [if_neg htick]
        have hscales : ∀ P : Prop, (rtt ≠ kDefaultMinRtt ∧
            targetRateBytesPerSec cwndBytes rtt ≤ p.maxPacingRateBytesPerSec ∧
              settings.pacingTickInterval ≤ rtt → P) ↔ P := fun P =>
          ⟨fun h => h ⟨hdefault, Nat.not_lt.mp htarget, by omega⟩, fun h _ => h⟩
        rw [hscales, FactorOk]
        by_cases hden : p.rttFactorDenominator = 0
        · rw [if_pos hden]
          constructor
          · rintro ⟨p', h⟩
            cases h
          · exact fun h => absurd hden h.1
        · rw [if_neg hden]
          have hpos : 0 < p.rttFactorDenominator.toNat := by
            refine Nat.pos_of_ne_zero fun hzero => hden ?_
            exact UInt8.toNat_inj.mp hzero
          have hscaled : 0 < rtt * p.rttFactorNumerator.toNat / p.rttFactorDenominator.toNat ↔
              p.rttFactorDenominator.toNat ≤ rtt * p.rttFactorNumerator.toNat :=
            Nat.div_pos_iff.trans ⟨fun h => h.2, fun h => ⟨hpos, h⟩⟩
          rw [← hscaled, ← @calculatePacingRate_ok_iff settings udpSendPacketLen _ cwndBytes
            p.minCwndInMss]
          exact exists_ok_bind_pure.trans (and_iff_right hden).symm

/-- The batch size never divides by zero. -/
theorem sendBatch_ok (p : TokenlessPacer) (isAppLimited : Option Bool) (currentTime : Nat) :
    ∃ n, p.sendBatch isAppLimited currentTime = .ok n := by
  unfold sendBatch
  split
  · split
    · next h =>
        have hpos : p.writeInterval.toNat ≠ 0 := by omega
        dsimp only
        rw [if_neg hpos]
        split
        · exact ⟨_, rfl⟩
        · exact ⟨_, rfl⟩
    · exact ⟨_, rfl⟩
  · exact ⟨_, rfl⟩

@[simp]
theorem resetLastWrite_denominator (p : TokenlessPacer) :
    p.resetLastWrite.rttFactorDenominator = p.rttFactorDenominator := by
  unfold resetLastWrite
  split
  · rfl
  · rfl

@[simp]
theorem setPacingRate_denominator (settings : KnobSettings) (udpSendPacketLen : Nat)
    (p : TokenlessPacer) (rateBps : Nat) :
    (p.setPacingRate settings udpSendPacketLen rateBps).rttFactorDenominator =
      p.rttFactorDenominator := by
  unfold setPacingRate
  dsimp only
  split
  · rw [resetLastWrite_denominator]
  · rw [resetLastWrite_denominator]

@[simp]
theorem setMaxPacingRate_denominator (settings : KnobSettings) (udpSendPacketLen : Nat)
    (p : TokenlessPacer) (maxRateBytesPerSec : Nat) :
    (p.setMaxPacingRate settings udpSendPacketLen maxRateBytesPerSec).rttFactorDenominator =
      p.rttFactorDenominator := by
  unfold setMaxPacingRate
  dsimp only
  split
  · rw [setPacingRate_denominator]
  · rfl

/-- Refreshing the rate keeps the factor, and succeeds with a positive tick. -/
theorem refreshPacingRate_ends (htick : 0 < settings.pacingTickInterval)
    (hfactor : p.rttFactorDenominator ≠ 0) :
    Ends (fun _ => False) (p.refreshPacingRate settings udpSendPacketLen cwndBytes rtt)
      fun p' => p'.rttFactorDenominator ≠ 0 := by
  unfold refreshPacingRate
  refine .ite (fun _ => hfactor) fun _ => .ite (fun _ => ?_) fun _ => .ite (fun _ => ?_) fun _ =>
    .ite (fun hzero => absurd hzero hfactor) fun _ => ?_
  · exact .ok (by rwa [setPacingRate_denominator])
  · exact .ok (by rwa [resetLastWrite_denominator])
  · obtain ⟨rate, hrate⟩ := calculatePacingRate_ok_iff.mpr (.inl htick)
    refine .bind (P := fun _ => True) ?_ fun _ _ => .ok (by rwa [resetLastWrite_denominator])
    rw [hrate]
    trivial

end TokenlessPacer

namespace KnobConn

variable {folly : Folly} {s s' : KnobConn}

/-! ### Handlers -/

/-- What a knob needs. -/
def HandlerOk (s : KnobConn) (param : TransportKnobParam) : Prop :=
  match param.knobParamId, param.val with
  | some .ccAlgorithmKnob, .uint64 val => ∃ controller, s.congestionController = some controller ∧
      (CongestionControlAlgorithm.ofUint64 val = controller.type ∨ s.congestionControllerFactory.isSome)
  | some .ccAgressivenessKnob, .uint64 val =>
      25 ≤ val → val ≤ 100 → s.congestionController.isSome
  | _, _ => True

theorem withUint64_ok {val : KnobVal} {k : UInt64 → Except KnobFault KnobConn}
    (h : ∀ n, ∃ s', k n = .ok s') : ∃ s', s.withUint64 val k = .ok s' := by
  cases val with
  | uint64 n => exact h n
  | string _ => exact ⟨s, rfl⟩

theorem withString_ok {val : KnobVal} {k : StringPiece → Except KnobFault KnobConn}
    (h : ∀ t, ∃ s', k t = .ok s') : ∃ s', s.withString val k = .ok s' := by
  cases val with
  | uint64 _ => exact ⟨s, rfl⟩
  | string t => exact h t

theorem onCcAlgorithmKnob_ok_iff {val : UInt64} :
    (∃ s', s.onCcAlgorithmKnob (.uint64 val) = .ok s') ↔
      ∃ controller, s.congestionController = some controller ∧
      (CongestionControlAlgorithm.ofUint64 val = controller.type ∨
        s.congestionControllerFactory.isSome) := by
  unfold onCcAlgorithmKnob withUint64
  dsimp only
  cases hcc : s.congestionController with
  | none =>
    constructor
    · rintro ⟨s', h⟩
      cases h
    · rintro ⟨controller, h, -⟩
      cases h
  | some controller =>
    dsimp only
    by_cases hsame : CongestionControlAlgorithm.ofUint64 val = controller.type
    · rw [if_pos hsame]
      exact ⟨fun _ => ⟨controller, rfl, .inl hsame⟩, fun _ => ⟨s, rfl⟩⟩
    · rw [if_neg hsame]
      cases hfactory : s.congestionControllerFactory with
      | none =>
        constructor
        · rintro ⟨s', h⟩
          cases h
        · rintro ⟨_, h, hor⟩
          cases h
          cases hor with
          | inl h => exact absurd h hsame
          | inr h => cases h
      | some factory =>
        refine ⟨fun _ => ⟨controller, rfl, .inr rfl⟩, fun _ => ?_⟩
        dsimp only
        split
        · exact ⟨_, rfl⟩
        · exact ⟨_, rfl⟩

theorem onCcAgressivenessKnob_ok_iff {val : UInt64} :
    (∃ s', s.onCcAgressivenessKnob (.uint64 val) = .ok s') ↔
      (25 ≤ val → val ≤ 100 → s.congestionController.isSome) := by
  unfold onCcAgressivenessKnob withUint64
  dsimp only
  by_cases hrange : val < 25 ∨ val > 100
  · rw [if_pos hrange]
    refine ⟨fun _ hlow hhigh => ?_, fun _ => ⟨s, rfl⟩⟩
    cases hrange with
    | inl h => exact absurd h (UInt64.not_lt.mpr hlow)
    | inr h => exact absurd h (UInt64.not_lt.mpr hhigh)
  · rw [if_neg hrange]
    have hlow : 25 ≤ val := UInt64.not_lt.mp fun h => hrange (.inl h)
    have hhigh : val ≤ 100 := UInt64.not_lt.mp fun h => hrange (.inr h)
    cases s.congestionController with
    | none =>
      constructor
      · rintro ⟨s', h⟩
        cases h
      · intro h
        cases h hlow hhigh
    | some type => exact ⟨fun _ _ _ => rfl, fun _ => ⟨s, rfl⟩⟩

theorem onMaxPacingRateKnob_ok (s : KnobConn) (val : KnobVal) :
    ∃ s', s.onMaxPacingRateKnob val = .ok s' := by
  refine withUint64_ok fun n => ?_
  split
  · exact ⟨s, rfl⟩
  · split
    · exact ⟨_, rfl⟩
    · exact ⟨_, rfl⟩

theorem onMaxPacingRateKnobSequenced_ok (folly : Folly) (s : KnobConn) (val : KnobVal) :
    ∃ s', onMaxPacingRateKnobSequenced folly s val = .ok s' := by
  refine withString_ok fun t => ?_
  split
  · exact ⟨s, rfl⟩
  · split
    · split
      · exact ⟨s, rfl⟩
      · exact ⟨_, rfl⟩
    · exact ⟨s, rfl⟩

theorem onAckFrequencyPolicy_ok (folly : Folly) (s : KnobConn) (val : KnobVal) :
    ∃ s', onAckFrequencyPolicy folly s val = .ok s' := by
  refine withString_ok fun t => ?_
  split
  · split
    · split
      · exact ⟨_, rfl⟩
      · exact ⟨s, rfl⟩
    · exact ⟨s, rfl⟩
  · exact ⟨s, rfl⟩

theorem onDefaultStreamPriority_ok (folly : Folly) (s : KnobConn) (val : KnobVal) :
    ∃ s', onDefaultStreamPriority folly s val = .ok s' := by
  refine withString_ok fun t => ?_
  split
  · exact ⟨s, rfl⟩
  · split
    · exact ⟨_, rfl⟩
    · exact ⟨s, rfl⟩

theorem onCcExperimental_ok (s : KnobConn) (val : KnobVal) :
    ∃ s', s.onCcExperimental val = .ok s' := by
  unfold onCcExperimental
  split
  · exact ⟨s, rfl⟩
  · exact withUint64_ok fun _ => ⟨s, rfl⟩

theorem onPacerExperimental_ok (s : KnobConn) (val : KnobVal) :
    ∃ s', s.onPacerExperimental val = .ok s' := by
  unfold onPacerExperimental
  split
  · exact ⟨s, rfl⟩
  · exact withUint64_ok fun _ => ⟨_, rfl⟩

/-- Only the two handlers of the congestion controller need something. -/
theorem handler_ok {id : Option TransportKnobParamId} (halgorithm : id ≠ some .ccAlgorithmKnob)
    (hagressiveness : id ≠ some .ccAgressivenessKnob) (val : KnobVal) :
    ∃ s', s.handler folly id val = .ok s' := by
  have hset : ∀ f : UInt64 → KnobSettings → KnobSettings,
      ∃ s', (s.withUint64 val fun n => s.set (f n)) = .ok s' := fun f =>
    withUint64_ok fun n => ⟨_, rfl⟩
  cases id with
  | none => exact ⟨s, rfl⟩
  | some id =>
    cases id with
    | unknown => exact ⟨s, rfl⟩
    | noOp => exact ⟨s, rfl⟩
    | forciblySetUdpPayloadSize => exact withUint64_ok fun _ => ⟨_, rfl⟩
    | ccAlgorithmKnob => exact absurd rfl halgorithm
    | ccAgressivenessKnob => exact absurd rfl hagressiveness
    | ccExperimental => exact onCcExperimental_ok s val
    | startupRttFactorKnob => exact hset _
    | defaultRttFactorKnob => exact hset _
    | notsentBufferSizeKnob => exact hset _
    | maxPacingRateKnob => exact onMaxPacingRateKnob_ok s val
    | autoBackgroundMode => exact withUint64_ok fun _ => ⟨_, rfl⟩
    | adaptiveLossDetection => exact hset _
    | pacerExperimental => exact onPacerExperimental_ok s val
    | shortHeaderPaddingKnob => exact hset _
    | keepaliveEnabled => exact hset _
    | removeFromLossBuffer => exact withUint64_ok fun _ => ⟨s, rfl⟩
    | maxPacingRateKnobSequenced => exact onMaxPacingRateKnobSequenced_ok folly s val
    | ackFrequencyPolicy => exact onAckFrequencyPolicy_ok folly s val
    | fireLoopEarly => exact withUint64_ok fun _ => ⟨_, rfl⟩
    | pacingTimerTick => exact hset _
    | defaultStreamPriority => exact onDefaultStreamPriority_ok folly s val
    | writeLoopTimeFraction => exact hset _
    | writesPerStream => exact withUint64_ok fun _ => ⟨_, rfl⟩

/-- A handler succeeds exactly where it finds what it needs. -/
theorem handleParam_ok_iff (s : KnobConn) (param : TransportKnobParam) :
    (∃ s', handleParam folly s param = .ok s') ↔ HandlerOk s param := by
  unfold handleParam HandlerOk
  split
  · next val hid hval =>
      rw [hid, hval]
      exact onCcAlgorithmKnob_ok_iff
  · next val hid hval =>
      rw [hid, hval]
      exact onCcAgressivenessKnob_ok_iff
  · next halgorithm hagressiveness =>
      refine iff_of_true ?_ trivial
      cases hval : param.val with
      | string t =>
        by_cases hid : param.knobParamId = some .ccAlgorithmKnob
        · rw [hid]
          exact ⟨s, rfl⟩
        · by_cases hid' : param.knobParamId = some .ccAgressivenessKnob
          · rw [hid']
            exact ⟨s, rfl⟩
          · exact handler_ok hid hid' _
      | uint64 val =>
        refine handler_ok (fun h => ?_) (fun h => ?_) _
        · exact halgorithm val h hval
        · exact hagressiveness val h hval

/-! ### Steps -/

/-- What a step needs. -/
def StepOk (folly : Folly) (s : KnobConn) : KnobEvent → Prop
  | .knobs payload => ∀ params, TransportKnobs.parseTransportKnobs folly payload = some params →
      Meets (handleParam folly) HandlerOk s params
  | .updatePacing startup pacingWindow mrtt => s.congestionController.map (·.type) = some .bbr →
      ∀ pacer, s.pacer = some pacer → TokenlessPacer.RefreshOk s.transportSettings
        (pacer.setRttFactor (if startup then s.transportSettings.startupRttFactor
          else s.transportSettings.defaultRttFactor)) pacingWindow mrtt
  | .refreshPacingRate cwndBytes rtt => s.congestionController.any (·.paces) = true →
      ∀ pacer, s.pacer = some pacer →
        TokenlessPacer.RefreshOk s.transportSettings pacer cwndBytes rtt
  | _ => True

theorem onTransportKnobs_ok_iff {payload : List (StringPiece × JsonValue)} :
    (∃ s', onTransportKnobs folly s payload = .ok s') ↔
      ∀ params, TransportKnobs.parseTransportKnobs folly payload = some params →
        Meets (handleParam folly) HandlerOk s params := by
  unfold onTransportKnobs
  cases TransportKnobs.parseTransportKnobs folly payload with
  | none =>
    refine ⟨fun _ params h => ?_, fun _ => ⟨s, rfl⟩⟩
    cases h
  | some params =>
    refine (run_ok_iff_meets handleParam_ok_iff).trans ⟨fun h _ heq => ?_, fun h => h params rfl⟩
    cases heq
    exact h

theorem refreshPacingRate_ok_iff {cwndBytes rtt : Nat} :
    (∃ s', s.refreshPacingRate cwndBytes rtt = .ok s') ↔ ∀ pacer, s.pacer = some pacer →
      TokenlessPacer.RefreshOk s.transportSettings pacer cwndBytes rtt := by
  unfold refreshPacingRate
  cases s.pacer with
  | none =>
    refine ⟨fun _ pacer h => ?_, fun _ => ⟨s, rfl⟩⟩
    cases h
  | some pacer =>
    refine (exists_ok_bind_pure.trans TokenlessPacer.refreshPacingRate_ok_iff).trans
      ⟨fun h _ heq => ?_, fun h => h pacer rfl⟩
    cases heq
    exact h

theorem bbrUpdatePacing_ok_iff {startup : Bool} {pacingWindow mrtt : Nat} :
    (∃ s', s.bbrUpdatePacing startup pacingWindow mrtt = .ok s') ↔ ∀ pacer, s.pacer = some pacer →
      TokenlessPacer.RefreshOk s.transportSettings
        (pacer.setRttFactor (if startup then s.transportSettings.startupRttFactor
          else s.transportSettings.defaultRttFactor)) pacingWindow mrtt := by
  refine refreshPacingRate_ok_iff.trans ?_
  dsimp only
  cases s.pacer with
  | none =>
    constructor
    · intro _ _ heq
      cases heq
    · intro _ _ heq
      cases heq
  | some pacer =>
    constructor
    · intro h _ heq
      cases heq
      exact h _ rfl
    · intro h _ heq
      cases heq
      exact h _ rfl

theorem paddingIncrement_ok (s : KnobConn) (remainingSpace : Nat) :
    ∃ n, s.paddingIncrement remainingSpace = .ok n := by
  unfold paddingIncrement
  dsimp only
  split
  · next h =>
      rw [if_neg (Nat.pos_iff_ne_zero.mp h)]
      exact ⟨_, rfl⟩
  · exact ⟨0, rfl⟩

theorem writeLoopTimeLimit_ok (s : KnobConn) (srtt elapsed : Nat) :
    ∃ within, s.writeLoopTimeLimit srtt elapsed = .ok within := by
  unfold writeLoopTimeLimit
  split
  · exact ⟨true, rfl⟩
  · next h =>
      rw [if_neg fun hzero => h (.inr hzero)]
      exact ⟨_, rfl⟩

theorem step_ok_iff (s : KnobConn) (e : KnobEvent) :
    (∃ s', step folly s e = .ok s') ↔ StepOk folly s e := by
  cases e with
  | knobs payload => exact onTransportKnobs_ok_iff
  | updatePacing startup pacingWindow mrtt =>
    dsimp only [step, StepOk]
    by_cases hbbr : s.congestionController.map (·.type) = some .bbr
    · rw [if_pos hbbr]
      exact bbrUpdatePacing_ok_iff.trans ⟨fun h _ => h, fun h => h hbbr⟩
    · rw [if_neg hbbr]
      exact iff_of_true ⟨s, rfl⟩ fun h => absurd h hbbr
  | refreshPacingRate cwndBytes rtt =>
    dsimp only [step, StepOk]
    by_cases hpaces : s.congestionController.any (·.paces) = true
    · rw [if_pos hpaces]
      exact refreshPacingRate_ok_iff.trans ⟨fun h _ => h, fun h => h hpaces⟩
    · rw [if_neg hpaces]
      exact iff_of_true ⟨s, rfl⟩ fun h => absurd h hpaces
  | writeBatch isAppLimited currentTime =>
    refine iff_of_true ?_ trivial
    dsimp only [step]
    split
    · exact ⟨s, rfl⟩
    · exact exists_ok_bind_pure.mpr (exists_ok_bind_pure.mpr (TokenlessPacer.sendBatch_ok _ _ _))
  | schedulePacket remainingSpace =>
    exact iff_of_true (exists_ok_bind_pure.mpr (paddingIncrement_ok s remainingSpace)) trivial
  | writeLoop srtt elapsed =>
    exact iff_of_true (exists_ok_bind_pure.mpr (writeLoopTimeLimit_ok s srtt elapsed)) trivial
  | nextStream force => exact iff_of_true ⟨_, rfl⟩ trivial

/-- A run is free of faults exactly when each of its steps finds what it needs. -/
theorem run_ok_iff (folly : Folly) (conn : KnobConn) (events : List KnobEvent) :
    (∃ s, events.foldlM (step folly) conn = .ok s) ↔ Meets (step folly) (StepOk folly) conn events :=
  run_ok_iff_meets step_ok_iff

/-- A boolean leaves a denominator of zero, and the algorithm "none" no controller. -/
theorem knobs_fault :
    [.knobs [(['4', '3', '6', '9'], .bool false)], .updatePacing true 14600 50000].foldlM
      (step .decimal) (.new .bbr .server) = .error .divisionByZero ∧
    [.knobs [(['5', '2', '3', '9', '4'], .string ['n', 'o', 'n', 'e'])],
      .knobs [(['5', '2', '3', '9', '4'], .string ['c', 'u', 'b', 'i', 'c'])]].foldlM
      (step .decimal) (.new .bbr .server) = .error .nullCongestionController := by
  constructor
  · rfl
  · rfl

/-! ### Harmless knobs -/

/-- No fault lies ahead. -/
structure Sound (s : KnobConn) : Prop where
  controller : s.congestionController.isSome
  factory : s.congestionControllerFactory.isSome
  tick : 0 < s.transportSettings.pacingTickInterval
  startup : s.transportSettings.startupRttFactor.2 ≠ 0
  default : s.transportSettings.defaultRttFactor.2 ≠ 0
  pacer : ∀ p, s.pacer = some p → p.rttFactorDenominator ≠ 0

/-- The knob takes no controller away, and sets no denominator of zero and no tick of zero or less. -/
def Harmless (param : TransportKnobParam) : Prop :=
  match param.knobParamId, param.val with
  | some .ccAlgorithmKnob, .uint64 val => CongestionControlAlgorithm.ofUint64 val ≠ .none
  | some .startupRttFactorKnob, .uint64 val => (unpackRttFactor val).2 ≠ 0
  | some .defaultRttFactorKnob, .uint64 val => (unpackRttFactor val).2 ≠ 0
  | some .pacingTimerTick, .uint64 val => 0 < val.toInt64.toInt
  | _, _ => True

theorem Sound.withUint64 (h : s.Sound) {val : KnobVal} {k : UInt64 → Except KnobFault KnobConn}
    (hk : ∀ n, val = .uint64 n → Ends (fun _ => False) (k n) Sound) :
    Ends (fun _ => False) (s.withUint64 val k) Sound := by
  cases val with
  | uint64 n => exact hk n rfl
  | string _ => exact h

theorem Sound.withString (h : s.Sound) {val : KnobVal} {k : StringPiece → Except KnobFault KnobConn}
    (hk : ∀ t, Ends (fun _ => False) (k t) Sound) :
    Ends (fun _ => False) (s.withString val k) Sound := by
  cases val with
  | uint64 _ => exact h
  | string t => exact hk t

theorem Sound.setMaxPacingRate (h : s.Sound) (rate : UInt64) : (s.setMaxPacingRate rate).Sound := by
  refine { h with pacer := fun p hp => ?_ }
  obtain ⟨p', hp', rfl⟩ := Option.map_eq_some_iff.mp hp
  rw [TokenlessPacer.setMaxPacingRate_denominator]
  exact h.pacer p' hp'

theorem Sound.onCcAlgorithmKnob (h : s.Sound) {val : KnobVal}
    (hval : ∀ n, val = .uint64 n → CongestionControlAlgorithm.ofUint64 n ≠ .none) :
    Ends (fun _ => False) (s.onCcAlgorithmKnob val) Sound := by
  refine h.withUint64 fun n hn => ?_
  have hnone := hval n hn
  obtain ⟨type, hcc⟩ := Option.isSome_iff_exists.mp h.controller
  obtain ⟨factory, hfactory⟩ := Option.isSome_iff_exists.mp h.factory
  dsimp only
  rw [hcc, hfactory]
  dsimp only
  refine .ite (fun _ => h) fun _ => ?_
  split
  · exact h
  · next made hmade =>
      refine { h with controller := ?_, factory := rfl }
      dsimp only
      generalize CongestionControlAlgorithm.ofUint64 n = cctype at hmade hnone
      cases cctype with
      | none => exact absurd rfl hnone
      | staticCwnd => cases factory <;> cases hmade
      | max => cases factory <;> cases hmade
      | _ =>
        cases factory <;>
        · cases hmade
          rfl

/-- A harmless knob leaves a sound connection sound. -/
theorem Sound.handleParam (h : s.Sound) {param : TransportKnobParam} (hharmless : Harmless param) :
    Ends (fun _ => False) (handleParam folly s param) Sound := by
  unfold KnobConn.handleParam
  unfold Harmless at hharmless
  cases hid : param.knobParamId with
  | none => exact h
  | some id =>
    rw [hid] at hharmless
    cases id with
    | unknown | noOp => exact h
    | notsentBufferSizeKnob | adaptiveLossDetection | shortHeaderPaddingKnob | keepaliveEnabled
    | writeLoopTimeFraction | autoBackgroundMode | fireLoopEarly | writesPerStream =>
      exact h.withUint64 fun _ _ => .ok { h with }
    | forciblySetUdpPayloadSize =>
      refine h.withUint64 fun n _ => .ok ?_
      split
      · exact { h with }
      · exact h
    | ccAlgorithmKnob =>
      refine h.onCcAlgorithmKnob fun n hn => ?_
      rw [hn] at hharmless
      exact hharmless
    | ccAgressivenessKnob =>
      refine h.withUint64 fun n _ => .ite (fun _ => h) fun _ => ?_
      split
      · next hnone =>
          have hsome := h.controller
          rw [hnone] at hsome
          cases hsome
      · exact h
    | ccExperimental =>
      show Ends _ (s.onCcExperimental param.val) Sound
      unfold onCcExperimental
      split
      · exact h
      · exact h.withUint64 fun _ _ => h
    | startupRttFactorKnob =>
      refine h.withUint64 fun n hn => .ok { h with startup := ?_ }
      rw [hn] at hharmless
      exact hharmless
    | defaultRttFactorKnob =>
      refine h.withUint64 fun n hn => .ok { h with default := ?_ }
      rw [hn] at hharmless
      exact hharmless
    | maxPacingRateKnob =>
      refine h.withUint64 fun n _ => .ite (fun _ => h) fun _ => .ite (fun _ => ?_) fun _ => ?_
      · exact { h with }
      · exact { h.setMaxPacingRate n with }
    | pacerExperimental =>
      show Ends _ (s.onPacerExperimental param.val) Sound
      unfold onPacerExperimental
      split
      · exact h
      · next p hp =>
          refine h.withUint64 fun _ _ => { h with pacer := fun p' hp' => ?_ }
          cases hp'
          exact h.pacer p hp
    | removeFromLossBuffer => exact h.withUint64 fun _ _ => h
    | maxPacingRateKnobSequenced =>
      refine h.withString fun t => ?_
      split
      · exact h
      · split
        · refine .ite (fun _ => h) fun _ => ?_
          next rate _ _ _ _ =>
          exact { h.setMaxPacingRate rate with }
        · exact h
    | ackFrequencyPolicy =>
      refine h.withString fun t => ?_
      split
      · split
        · exact .ite (fun _ => .ok { h with }) fun _ => h
        · exact h
      · exact h
    | pacingTimerTick =>
      refine h.withUint64 fun n hn => .ok { h with tick := ?_ }
      rw [hn] at hharmless
      exact hharmless
    | defaultStreamPriority =>
      refine h.withString fun t => ?_
      split
      · exact h
      · split
        · exact .ok { h with }
        · exact h

/-- A payload of harmless knobs. -/
def HarmlessEvent (folly : Folly) : KnobEvent → Prop
  | .knobs payload => ∀ params, TransportKnobs.parseTransportKnobs folly payload = some params →
      ∀ param ∈ params, Harmless param
  | _ => True

theorem Sound.refreshPacingRate (h : s.Sound) (cwndBytes rtt : Nat) :
    Ends (fun _ => False) (s.refreshPacingRate cwndBytes rtt) Sound := by
  unfold KnobConn.refreshPacingRate
  split
  · exact h
  · next p hp =>
      refine (TokenlessPacer.refreshPacingRate_ends h.tick (h.pacer p hp)).bind fun p' hp' => ?_
      refine .ok { h with pacer := fun q hq => ?_ }
      cases hq
      exact hp'

theorem Sound.step (h : s.Sound) {e : KnobEvent} (he : HarmlessEvent folly e) :
    Ends (fun _ => False) (step folly s e) Sound := by
  cases e with
  | knobs payload =>
    change Ends _ (onTransportKnobs folly s payload) Sound
    unfold onTransportKnobs
    split
    · next params hparams =>
        refine (Ends.foldlM (I := fun s rest => s.Sound ∧ ∀ param ∈ rest, Harmless param)
          (fun s param rest hI => ?_) ⟨h, he params hparams⟩).imp fun s hs => hs.1
        refine (hI.1.handleParam (hI.2 param List.mem_cons_self)).imp fun s' hs' => ⟨hs', ?_⟩
        exact fun p hp => hI.2 p (List.mem_cons_of_mem _ hp)
    · exact h
  | updatePacing startup pacingWindow mrtt =>
    refine .ite (fun _ => ?_) fun _ => h
    refine Sound.refreshPacingRate ?_ pacingWindow mrtt
    refine { h with pacer := fun p hp => ?_ }
    obtain ⟨p', -, rfl⟩ := Option.map_eq_some_iff.mp hp
    change (if startup then s.transportSettings.startupRttFactor
      else s.transportSettings.defaultRttFactor).2 ≠ 0
    cases startup with
    | true => exact h.startup
    | false => exact h.default
  | refreshPacingRate cwndBytes rtt =>
    exact .ite (fun _ => h.refreshPacingRate cwndBytes rtt) fun _ => h
  | writeBatch isAppLimited currentTime =>
    dsimp only [KnobConn.step]
    split
    · exact h
    · next p hp =>
        obtain ⟨n, hn⟩ := p.sendBatch_ok (s.congestionController.map fun _ => isAppLimited)
          currentTime
        unfold TokenlessPacer.updateAndGetWriteBatchSize
        rw [hn]
        refine { h with pacer := fun q hq => ?_ }
        cases hq
        exact h.pacer p hp
  | schedulePacket remainingSpace =>
    obtain ⟨n, hn⟩ := paddingIncrement_ok s remainingSpace
    dsimp only [KnobConn.step]
    rw [hn]
    exact h
  | writeLoop srtt elapsed =>
    obtain ⟨within, hwithin⟩ := writeLoopTimeLimit_ok s srtt elapsed
    dsimp only [KnobConn.step]
    rw [hwithin]
    exact h
  | nextStream force =>
    dsimp only [KnobConn.step]
    unfold next
    split
    · exact { h with }
    · exact { h with }

/-- Harmless knobs cause no fault in any run from a sound connection. -/
theorem run_ok_of_harmless {events : List KnobEvent} (h : s.Sound)
    (hevents : ∀ e ∈ events, HarmlessEvent folly e) :
    ∃ s', events.foldlM (step folly) s = .ok s' ∧ s'.Sound := by
  have hrun := Ends.foldlM (E := fun _ : KnobFault => False) (f := step folly)
    (I := fun s rest => s.Sound ∧ ∀ e ∈ rest, HarmlessEvent folly e)
    (fun s e rest hI => ((hI.1.step (hI.2 e List.mem_cons_self)).imp fun s' hs' =>
      ⟨hs', fun e' he' => hI.2 e' (List.mem_cons_of_mem _ he')⟩)) ⟨h, hevents⟩
  exact (hrun.imp fun s hs => hs.1).exists_ok

/-- A new connection is sound. -/
theorem new_sound (type : CongestionControlAlgorithm) (factory : CongestionControllerFactory) :
    (new type factory).Sound where
  controller := rfl
  factory := rfl
  tick := (by decide : (0 : Int) < 1000)
  startup := (by decide : (2 : UInt8) ≠ 0)
  default := (by decide : (5 : UInt8) ≠ 0)
  pacer p hp := by
    cases hp
    decide

/-- A factor of 2/5 is set and used. -/
theorem run_ok_of_harmless_factor : ∃ s,
    [.knobs [(['4', '3', '6', '9'], .string ['2', '/', '5'])], .updatePacing true 14600 50000].foldlM
      (step .decimal) (new .bbr .server) = .ok s ∧ s.Sound := by
  refine run_ok_of_harmless (new_sound _ _) ?_
  rintro e he
  rcases List.mem_cons.mp he with rfl | he
  · intro params hparams
    cases hparams
    intro param hparam
    rw [List.mem_singleton.mp hparam]
    exact (by decide : (5 : UInt8) ≠ 0)
  · rw [List.mem_singleton.mp he]
    trivial

end KnobConn

end MasqueQuic
