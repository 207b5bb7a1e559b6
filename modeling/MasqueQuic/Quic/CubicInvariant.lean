/-
The invariant of the Cubic state machine.

`Cubic.Inv` says that the window stays between the two bounds, that in `FastRecovery` it is the
slow-start threshold and the end of recovery, the window before the last reduction and its time
are set, that the estimate of the window of Reno is not zero outside slow start once there is a
window before the last reduction, and that a round of slow start that has counted an
acknowledgement has a sample.

Every handler keeps it, whatever the floating-point functions return, and under it no empty
optional is read, no `CHECK` on the window fails and nothing is divided by zero.
`Cubic.cwnd_bounded` says so about the runs. The lower bound must not exceed the upper one
for that, which `setTransportSettings` does not enforce.
-/

import MasqueQuic.Quic.Cubic

namespace MasqueQuic

/-! ### The settings -/

/-- What `setTransportSettings` leaves of the first two settings, with bounds in order and with
products that fit in 64 bits. -/
structure CubicConfig.Sane (cfg : CubicConfig) : Prop where
  min_pos : 0 < cfg.settings.minCwndInMss
  min_le_init : cfg.settings.minCwndInMss ≤ cfg.settings.initCwndInMss
  min_le_max : cfg.settings.minCwndInMss ≤ cfg.settings.maxCwndInMss
  packetLen_pos : 0 < cfg.udpSendPacketLen
  init_fits : cfg.settings.initCwndInMss * cfg.udpSendPacketLen < 2 ^ 64
  max_fits : cfg.settings.maxCwndInMss * cfg.udpSendPacketLen < 2 ^ 64

namespace CubicConfig

theorem u64_of_lt {n : Nat} (h : n < 2 ^ 64) : u64 n = n := Nat.mod_eq_of_lt h

variable {cfg : CubicConfig} (sane : cfg.Sane)

include sane

theorem Sane.minCwndBytes_eq :
    cfg.minCwndBytes = cfg.settings.minCwndInMss * cfg.udpSendPacketLen :=
  u64_of_lt ((Nat.mul_le_mul_right _ sane.min_le_max).trans_lt sane.max_fits)

theorem Sane.maxCwndBytes_eq :
    cfg.maxCwndBytes = cfg.settings.maxCwndInMss * cfg.udpSendPacketLen :=
  u64_of_lt sane.max_fits

theorem Sane.minCwndBytes_pos : 0 < cfg.minCwndBytes := by
  rw [sane.minCwndBytes_eq]
  exact Nat.mul_pos sane.min_pos sane.packetLen_pos

theorem Sane.minCwndBytes_le : cfg.minCwndBytes ≤ cfg.maxCwndBytes := by
  rw [sane.minCwndBytes_eq, sane.maxCwndBytes_eq]
  exact Nat.mul_le_mul_right _ sane.min_le_max

theorem Sane.minCwndBytes_le_init :
    cfg.minCwndBytes ≤ u64 (cfg.settings.initCwndInMss * cfg.udpSendPacketLen) := by
  rw [sane.minCwndBytes_eq, u64_of_lt sane.init_fits]
  exact Nat.mul_le_mul_right _ sane.min_le_init

omit sane in
theorem le_boundedCwnd (cwndBytes : Nat) : cfg.minCwndBytes ≤ cfg.boundedCwnd cwndBytes :=
  Nat.le_max_right _ _

theorem Sane.boundedCwnd_le (cwndBytes : Nat) : cfg.boundedCwnd cwndBytes ≤ cfg.maxCwndBytes :=
  Nat.max_le.mpr ⟨Nat.min_le_right _ _, sane.minCwndBytes_le⟩

theorem Sane.boundedCwnd_ne_zero (cwndBytes : Nat) : cfg.boundedCwnd cwndBytes ≠ 0 :=
  Nat.ne_of_gt (sane.minCwndBytes_pos.trans_le (le_boundedCwnd cwndBytes))

end CubicConfig

/-! ### The invariant -/

namespace Cubic

open CubicFault (deref)

variable {δ : Type} {F : CubicFloat δ} {cfg : CubicConfig} {c c' : Cubic δ}

/-- A window within the bounds. -/
structure Bounded (cfg : CubicConfig) (cwndBytes : Nat) : Prop where
  lower : cfg.minCwndBytes ≤ cwndBytes
  upper : cwndBytes ≤ cfg.maxCwndBytes

/-- What `FastRecovery` relies on. -/
structure Recovering (c : Cubic δ) : Prop where
  cwnd : c.cwndBytes = c.ssthresh
  endOfRecovery : c.endOfRecovery.isSome
  lastMaxCwndBytes : c.steadyState.lastMaxCwndBytes.isSome
  lastReductionTime : c.steadyState.lastReductionTime.isSome

structure Inv (cfg : CubicConfig) (c : Cubic δ) : Prop where
  bounded : Bounded cfg c.cwndBytes
  recovery : c.state = .fastRecovery → Recovering c
  reno : c.steadyState.tcpFriendly → c.state ≠ .hystart →
    c.steadyState.lastMaxCwndBytes.isSome → c.steadyState.estRenoCwnd ≠ 0
  sampled : c.hystartState.inRttRound → c.hystartState.ackCount ≠ 0 →
    c.hystartState.currSampledRtt.isSome

/-- The ways in which a handler may fail: the exceptions it throws, and an event that acknowledges
a packet without acknowledged packets. -/
def Excusable (f : CubicFault) : Prop :=
  f = .inflightBytesOverflow ∨ f = .cwndOverflow ∨ f = .conversion ∨ f = .noAckedPackets

theorem bounded_boundedCwnd (sane : cfg.Sane) (cwndBytes : Nat) :
    Bounded cfg (cfg.boundedCwnd cwndBytes) :=
  ⟨CubicConfig.le_boundedCwnd cwndBytes, sane.boundedCwnd_le cwndBytes⟩

theorem Bounded.max {m n : Nat} (hm : Bounded cfg m) (hn : Bounded cfg n) :
    Bounded cfg (max m n) :=
  ⟨hm.lower.trans (Nat.le_max_left m n), Nat.max_le.mpr ⟨hm.upper, hn.upper⟩⟩

theorem Bounded.ne_zero (sane : cfg.Sane) {n : Nat} (hn : Bounded cfg n) : n ≠ 0 :=
  Nat.ne_of_gt (sane.minCwndBytes_pos.trans_le hn.lower)

theorem inv_new (sane : cfg.Sane) (initCwndBytes initSsthresh : Nat)
    (tcpFriendly ackTrain : Bool) :
    Inv cfg (new F cfg initCwndBytes initSsthresh tcpFriendly ackTrain) where
  bounded :=
    ⟨Nat.le_min.mpr ⟨sane.minCwndBytes_le,
      sane.minCwndBytes_le_init.trans (Nat.le_max_right _ _)⟩, Nat.min_le_left _ _⟩
  recovery := by
    intro h
    cases h
  reno := by
    intro _ h
    exact absurd rfl h
  sampled := by
    intro h
    cases h

/-! ### Losses -/

theorem inv_onPersistentCongestion (sane : cfg.Sane) (c : Cubic δ) :
    Inv cfg (onPersistentCongestion cfg c) where
  bounded := ⟨Nat.le_refl _, sane.minCwndBytes_le⟩
  recovery := by
    intro h
    cases h
  reno := by
    intro _ h
    exact absurd rfl h
  sampled := by
    intro h
    cases h

theorem Inv.startRecovery (sane : cfg.Sane) (h : Inv cfg c) (lossTime now : TimePoint) :
    Inv cfg (startRecovery F cfg c lossTime now) where
  bounded := bounded_boundedCwnd sane _
  recovery := fun _ => ⟨rfl, rfl, rfl, rfl⟩
  reno := by
    intro friendly _ _
    have hfriendly : c.steadyState.tcpFriendly = true := friendly
    simp only [Cubic.startRecovery, cubicReduction, hfriendly, if_true]
    exact sane.boundedCwnd_ne_zero _
  sampled := h.sampled

theorem Inv.onPacketLoss (sane : cfg.Sane) (h : Inv cfg c) (loss : CubicLoss)
    (now : TimePoint) : Inv cfg (onPacketLoss F cfg c loss now) := by
  have hcleared : Inv cfg { c with
      quiescenceStart := none
      inflightBytes := sub64 c.inflightBytes loss.lostBytes } :=
    ⟨h.bounded, fun hstate => ⟨(h.recovery hstate).cwnd, (h.recovery hstate).endOfRecovery,
      (h.recovery hstate).lastMaxCwndBytes, (h.recovery hstate).lastReductionTime⟩, h.reno,
      h.sampled⟩
  unfold Cubic.onPacketLoss
  dsimp only
  split
  · split
    · exact inv_onPersistentCongestion sane _
    · exact inv_onPersistentCongestion sane _
  · split
    · exact hcleared.startRecovery sane _ _
    · exact hcleared

/-! ### Growth -/

/-- An optional that is set is read. -/
theorem deref_ends {α : Type} {E : CubicFault → Prop} {o : Option α} (h : o.isSome) :
    Ends E (deref o) (fun a => o = some a) := by
  cases o with
  | none => cases h
  | some a => exact Ends.ok rfl

/-- The parts of the state that the growth functions leave as they are. -/
structure SameButOrigin (c c' : Cubic δ) : Prop where
  state : c'.state = c.state
  cwndBytes : c'.cwndBytes = c.cwndBytes
  hystartState : c'.hystartState = c.hystartState
  tcpFriendly : c'.steadyState.tcpFriendly = c.steadyState.tcpFriendly
  lastReductionTime : c'.steadyState.lastReductionTime = c.steadyState.lastReductionTime

theorem updateTimeToOrigin_ends (sane : cfg.Sane)
    (h : c.steadyState.lastMaxCwndBytes.isSome) :
    Ends Excusable (updateTimeToOrigin F cfg c) (fun c' => SameButOrigin c c' ∧
      c'.steadyState.lastMaxCwndBytes = c.steadyState.lastMaxCwndBytes ∧
      c'.steadyState.estRenoCwnd = c.steadyState.estRenoCwnd) := by
  refine (deref_ends h).bind fun lastMaxCwndBytes _ => ?_
  refine Ends.ite (fun _ => Ends.ok ⟨⟨rfl, rfl, rfl, rfl, rfl⟩, rfl, rfl⟩) fun _ => ?_
  refine Ends.ite (fun hzero => ?_) fun _ => Ends.ok ⟨⟨rfl, rfl, rfl, rfl, rfl⟩, rfl, rfl⟩
  exact absurd hzero (Nat.ne_of_gt sane.packetLen_pos)

theorem calculateCubicCwndDelta_ends (hmax : c.steadyState.lastMaxCwndBytes.isSome)
    (htime : c.steadyState.lastReductionTime.isSome) (ackTime : TimePoint) :
    Ends Excusable (calculateCubicCwndDelta F cfg c ackTime) (fun _ => True) := by
  refine (deref_ends htime).bind fun lastReductionTime _ => ?_
  refine Ends.ite (fun _ => Ends.ok trivial) fun _ => ?_
  exact (deref_ends hmax).bind fun _ _ => Ends.ok trivial

theorem calculateCubicCwnd_ends (sane : cfg.Sane)
    (h : c.steadyState.lastMaxCwndBytes.isSome) (delta : Int64) :
    Ends Excusable (calculateCubicCwnd cfg c delta) (Bounded cfg) := by
  refine (deref_ends h).bind fun lastMaxCwndBytes _ => ?_
  refine Ends.ite (fun _ => Ends.ok ⟨sane.minCwndBytes_le, Nat.le_refl _⟩) fun _ => ?_
  refine Ends.ite (fun _ => Ends.error (Or.inr (Or.inr (Or.inl rfl)))) fun _ => ?_
  refine Ends.ite (fun _ => Ends.ok ⟨Nat.le_refl _, sane.minCwndBytes_le⟩) fun _ => ?_
  exact Ends.ok (bounded_boundedCwnd sane _)

/-! ### Acknowledgements in `Hystart` -/

/-- A round that has counted an acknowledgement has a sample. -/
def Sampled (h : HystartState) : Prop :=
  h.inRttRound → h.ackCount ≠ 0 → h.currSampledRtt.isSome

theorem sampled_searchAckTrain {h : HystartState} (hs : Sampled h) (ackTime : TimePoint)
    (lrtt : Int) : Sampled (searchAckTrain h ackTime lrtt) := by
  unfold searchAckTrain
  dsimp only
  split
  · split
    · exact hs
    · exact hs
  · exact hs

theorem searchAckTrain_inRttRound (h : HystartState) (ackTime : TimePoint) (lrtt : Int) :
    (searchAckTrain h ackTime lrtt).inRttRound = h.inRttRound := by
  unfold searchAckTrain
  dsimp only
  split
  · split
    · rfl
    · rfl
  · rfl

theorem searchSampled_ends {h : HystartState} (hs : Sampled h) (hround : h.inRttRound) :
    Ends Excusable (searchSampled h) Sampled := by
  unfold searchSampled
  cases h.lastSampledRtt with
  | none => exact Ends.ok hs
  | some lastSampledRtt =>
    refine Ends.ite (fun _ => Ends.ok hs) fun _ => ?_
    refine Ends.ite (fun _ => Ends.ok hs) fun _ => ?_
    refine Ends.ite (fun hcount => ?_) fun _ => Ends.ok hs
    have hcounted : h.ackCount ≠ 0 := by
      intro hzero
      rw [hzero] at hcount
      exact absurd hcount (by decide)
    refine (deref_ends (hs hround hcounted)).bind fun currSampledRtt _ => ?_
    exact Ends.ite (fun _ => Ends.ok hs) fun _ => Ends.ok hs

theorem searchDelayIncrease_ends {h : HystartState} (hs : Sampled h) (hround : h.inRttRound)
    (lrtt : Int) : Ends Excusable (searchDelayIncrease h lrtt) Sampled := by
  have hsampled : ∀ r n, Sampled { h with currSampledRtt := some r, ackCount := n } :=
    fun r n _ _ => rfl
  refine Ends.ite (fun _ => ?_) fun _ => searchSampled_ends hs hround
  refine Ends.ite (fun _ => Ends.ok (hsampled _ _)) fun _ => ?_
  exact searchSampled_ends (hsampled _ _) hround

theorem Inv.endHystartAck (h : Inv cfg c) (hstate : c.state = .hystart) (ack : CubicAck)
    (exitReason : Option ExitReason) : Inv cfg (endHystartAck cfg c ack exitReason) := by
  unfold Cubic.endHystartAck
  dsimp only
  generalize (if c.hystartState.found ≠ .no ∧
    kLowSsthreshInMss * cfg.udpSendPacketLen ≤ c.cwndBytes then some ExitReason.exitpoint
    else exitReason) = exitReason
  split
  · refine ⟨h.bounded, fun hstate => ?_, fun _ _ hmax => ?_, fun hround => ?_⟩
    · cases hstate
    · cases hmax
    · cases hround
  · split
    · refine ⟨h.bounded, fun hrec => ?_, fun _ hsteady => absurd hstate hsteady, fun hround => ?_⟩
      · rw [hstate] at hrec
        cases hrec
      · cases hround
    · exact h

theorem onPacketAckedInHystart_ends (sane : cfg.Sane) (h : Inv cfg c)
    (hstate : c.state = .hystart) (ack : CubicAck) (lrtt : Int) (now : TimePoint) :
    Ends Excusable (onPacketAckedInHystart cfg c ack lrtt now) (Inv cfg) := by
  unfold onPacketAckedInHystart
  dsimp only
  -- The state after the start of a round, if there was none.
  generalize hc : (if c.hystartState.inRttRound = true then c
    else startHystartRttRound c ack.ackTime now) = c₁
  have hround : c₁.hystartState.inRttRound = true := by
    subst hc
    split
    · assumption
    · rfl
  have hstate₁ : c₁.state = .hystart := by
    subst hc
    split
    · exact hstate
    · exact hstate
  have hsampled : Sampled c₁.hystartState := by
    subst hc
    split
    · exact h.sampled
    · intro _ hcount
      exact absurd rfl hcount
  -- Slow start asks for the bounds and for the samples only.
  have hinv : ∀ n hy, Bounded cfg n → Sampled hy →
      Inv cfg { c₁ with cwndBytes := n, hystartState := hy } := by
    intro n hy hn hhy
    refine ⟨hn, fun hrec => ?_, fun _ hsteady => absurd hstate₁ hsteady, hhy⟩
    have hrec : c₁.state = .fastRecovery := hrec
    rw [hstate₁] at hrec
    cases hrec
  have hgrown := bounded_boundedCwnd sane (c₁.cwndBytes + ack.ackedBytes)
  refine Ends.ite (fun _ => Ends.error (Or.inr (Or.inl rfl))) fun _ => ?_
  refine Ends.ite (fun _ => Ends.ok ?_) fun _ => ?_
  · exact (hinv _ _ hgrown hsampled).endHystartAck hstate₁ ack _
  · refine Ends.ite (fun _ => Ends.ok ?_) fun _ => ?_
    · exact (hinv _ _ hgrown hsampled).endHystartAck hstate₁ ack _
    · have htrain := sampled_searchAckTrain hsampled ack.ackTime lrtt
      refine Ends.bind (P := Sampled) ?_ fun hy hhy => ?_
      · refine Ends.ite (fun _ => ?_) fun _ => Ends.ok htrain
        refine searchDelayIncrease_ends htrain ?_ lrtt
        rw [searchAckTrain_inRttRound]
        exact hround
      · exact Ends.ok ((hinv _ _ hgrown hhy).endHystartAck hstate₁ ack none)

/-! ### Acknowledgements in `Steady` and `FastRecovery` -/

/-- After `setOrigin` there is a window before the last reduction, and an estimate of the window
of Reno. -/
theorem setOrigin_ends (sane : cfg.Sane) (h : Inv cfg c) (hstate : c.state = .steady) :
    Ends Excusable (setOrigin F cfg c) (fun c' => SameButOrigin c c' ∧
      c'.steadyState.lastMaxCwndBytes.isSome ∧
      (c'.steadyState.tcpFriendly → c'.steadyState.estRenoCwnd ≠ 0)) := by
  have hout : c.state ≠ .hystart := by
    rw [hstate]
    decide
  unfold setOrigin
  split
  · refine Ends.ok ⟨⟨rfl, rfl, rfl, rfl, rfl⟩, rfl, fun friendly => ?_⟩
    have hfriendly : c.steadyState.tcpFriendly = true := friendly
    simp only [hfriendly, if_true]
    exact h.bounded.ne_zero sane
  · next hmax =>
    have hsome : c.steadyState.lastMaxCwndBytes.isSome := by
      rw [hmax]
      rfl
    refine Ends.ite (fun _ => ?_) fun _ => ?_
    · refine (updateTimeToOrigin_ends sane hsome).imp fun c' hc' => ?_
      obtain ⟨hsame, hmax', hreno⟩ := hc'
      refine ⟨hsame, ?_, fun friendly => ?_⟩
      · rw [hmax']
        exact hsome
      · rw [hreno]
        rw [hsame.tcpFriendly] at friendly
        exact h.reno friendly hout hsome
    · exact Ends.ok ⟨⟨rfl, rfl, rfl, rfl, rfl⟩, hsome, fun friendly => h.reno friendly hout hsome⟩

theorem bounded_experimentalCwnd (sane : cfg.Sane) {newCwnd : Nat} (h : Bounded cfg newCwnd)
    (ackedBytes : Nat) : Bounded cfg (experimentalCwnd cfg c ackedBytes newCwnd) := by
  unfold experimentalCwnd
  split
  · exact bounded_boundedCwnd sane _
  · exact h

theorem renoEstimation_ends (sane : cfg.Sane) (h : Inv cfg c) (hstate : c.state = .steady)
    (hreno : c.steadyState.tcpFriendly → c.steadyState.estRenoCwnd ≠ 0) (ackedBytes : Nat) :
    Ends Excusable (renoEstimation F cfg c ackedBytes) (Inv cfg) := by
  refine Ends.ite (fun hfriendly => ?_) fun _ => Ends.ok h
  refine Ends.ite (fun hzero => absurd hzero (hreno hfriendly.1)) fun _ => Ends.ok ?_
  refine ⟨h.bounded.max (bounded_boundedCwnd sane _), fun hrec => ?_, fun _ _ _ => ?_, h.sampled⟩
  · have hrec : c.state = .fastRecovery := hrec
    rw [hstate] at hrec
    cases hrec
  · exact sane.boundedCwnd_ne_zero _

theorem onPacketAckedInSteady_ends (sane : cfg.Sane) (h : Inv cfg c)
    (hstate : c.state = .steady) (ack : CubicAck) :
    Ends Excusable (onPacketAckedInSteady F cfg c ack) (Inv cfg) := by
  refine Ends.ite (fun _ => Ends.ok h) fun _ => ?_
  refine (setOrigin_ends sane h hstate).bind fun c₁ hc₁ => ?_
  obtain ⟨hsame, hmax, hreno⟩ := hc₁
  have hmax₁ : (setReductionTime c₁ ack.ackTime).steadyState.lastMaxCwndBytes.isSome := hmax
  have htime₁ : (setReductionTime c₁ ack.ackTime).steadyState.lastReductionTime.isSome := rfl
  refine (calculateCubicCwndDelta_ends hmax₁ htime₁ ack.ackTime).bind fun delta _ => ?_
  refine (calculateCubicCwnd_ends sane hmax₁ delta).bind fun newCwnd hnew => ?_
  have hstate₁ : c₁.state = .steady := hsame.state.trans hstate
  refine renoEstimation_ends sane ⟨?_, fun hrec => ?_, ?_, ?_⟩ ?_ ?_ ack.ackedBytes
  · refine Bounded.max ?_ (bounded_experimentalCwnd sane hnew _)
    show Bounded cfg c₁.cwndBytes
    rw [hsame.cwndBytes]
    exact h.bounded
  · have hrec : c₁.state = .fastRecovery := hrec
    rw [hstate₁] at hrec
    cases hrec
  · intro friendly _ _
    exact hreno friendly
  · show Sampled c₁.hystartState
    rw [hsame.hystartState]
    exact h.sampled
  · exact hstate₁
  · exact hreno

/-- The state after the recovery: the window is calculated for the first time. -/
theorem leaveRecovery_ends (sane : cfg.Sane) (h : Inv cfg c) (hstate : c.state = .fastRecovery)
    (ack : CubicAck) :
    Ends Excusable (do
      let c ← updateTimeToOrigin F cfg { c with state := .steady }
      let delta ← calculateCubicCwndDelta F cfg c ack.ackTime
      let cwndBytes ← calculateCubicCwnd cfg c delta
      return { c with cwndBytes }) (Inv cfg) := by
  have hrec := h.recovery hstate
  refine Ends.bind (updateTimeToOrigin_ends sane hrec.lastMaxCwndBytes) fun c₁ hc₁ => ?_
  obtain ⟨hsame, hmax, hreno⟩ := hc₁
  have hmax₁ : c₁.steadyState.lastMaxCwndBytes.isSome := by
    rw [hmax]
    exact hrec.lastMaxCwndBytes
  have htime₁ : c₁.steadyState.lastReductionTime.isSome := by
    rw [hsame.lastReductionTime]
    exact hrec.lastReductionTime
  refine (calculateCubicCwndDelta_ends hmax₁ htime₁ ack.ackTime).bind fun delta _ => ?_
  refine (calculateCubicCwnd_ends sane hmax₁ delta).bind fun newCwnd hnew => ?_
  refine Ends.ok ⟨hnew, fun hrec => ?_, fun friendly _ _ => ?_, ?_⟩
  · have hrec : c₁.state = .fastRecovery := hrec
    rw [hsame.state] at hrec
    cases hrec
  · show c₁.steadyState.estRenoCwnd ≠ 0
    rw [hreno]
    have hfriendly : c₁.steadyState.tcpFriendly = true := friendly
    rw [hsame.tcpFriendly] at hfriendly
    refine h.reno hfriendly ?_ hrec.lastMaxCwndBytes
    rw [hstate]
    decide
  · show Sampled c₁.hystartState
    rw [hsame.hystartState]
    exact h.sampled

theorem onPacketAckedInRecovery_ends (sane : cfg.Sane) (h : Inv cfg c)
    (hstate : c.state = .fastRecovery) (ack : CubicAck) :
    Ends Excusable (onPacketAckedInRecovery F cfg c ack) (Inv cfg) := by
  have hrec := h.recovery hstate
  refine Ends.ite (fun hne => absurd hrec.cwnd hne) fun _ => ?_
  split
  · next hend =>
    have hset := hrec.endOfRecovery
    rw [hend] at hset
    cases hset
  · refine Ends.ite (fun _ => ?_) fun _ => Ends.ok h
    exact leaveRecovery_ends sane h hstate ack

theorem onPacketAcked_ends (sane : cfg.Sane) (h : Inv cfg c) (ack : CubicAck) (lrtt : Int)
    (now : TimePoint) : Ends Excusable (onPacketAcked F cfg c ack lrtt now) (Inv cfg) := by
  have hless : Inv cfg { c with inflightBytes := sub64 c.inflightBytes ack.ackedBytes } :=
    ⟨h.bounded, fun hstate => ⟨(h.recovery hstate).cwnd, (h.recovery hstate).endOfRecovery,
      (h.recovery hstate).lastMaxCwndBytes, (h.recovery hstate).lastReductionTime⟩, h.reno,
      h.sampled⟩
  refine Ends.ite (fun _ => Ends.ok hless) fun _ => ?_
  split
  · next hstate => exact onPacketAckedInHystart_ends sane hless hstate ack lrtt now
  · next hstate => exact onPacketAckedInSteady_ends sane hless hstate ack
  · next hstate => exact onPacketAckedInRecovery_ends sane hless hstate ack

/-! ### Runs -/

theorem Inv.setAppIdle (h : Inv cfg c) (idle : Bool) (eventTime : TimePoint) :
    Inv cfg (setAppIdle c idle eventTime) := by
  unfold Cubic.setAppIdle
  split
  · split
    · exact ⟨h.bounded, fun hstate => ⟨(h.recovery hstate).cwnd,
        (h.recovery hstate).endOfRecovery, (h.recovery hstate).lastMaxCwndBytes,
        (h.recovery hstate).lastReductionTime⟩, h.reno, h.sampled⟩
    · exact h
  · split
    · exact h
    · refine ⟨h.bounded, fun hstate => ?_, h.reno, h.sampled⟩
      have hrec := h.recovery hstate
      refine ⟨hrec.cwnd, hrec.endOfRecovery, hrec.lastMaxCwndBytes, ?_⟩
      rw [Option.isSome_map]
      exact hrec.lastReductionTime

/-- What is left to do behind a loss. -/
theorem onPacketAckOrLoss_ends (sane : cfg.Sane) (h : Inv cfg c) (ackEvent : Option CubicAck)
    (lrtt : Int) (lossClock ackClock : TimePoint) :
    Ends Excusable (onPacketAckOrLoss F cfg c ackEvent none lrtt lossClock ackClock) (Inv cfg) := by
  unfold onPacketAckOrLoss
  cases ackEvent with
  | none => exact Ends.ok h
  | some ack =>
    refine Ends.ite (fun _ => ?_) fun _ => Ends.ok h
    refine Ends.ite (fun _ => Ends.error (Or.inr (Or.inr (Or.inr rfl)))) fun _ => ?_
    exact onPacketAcked_ends sane h ack lrtt ackClock

/-- What one event does. -/
theorem step_ends (sane : cfg.Sane) (h : Inv cfg c) (e : Event) :
    Ends Excusable (step F cfg c e) (Inv cfg) := by
  cases e with
  | packetSent encodedSize =>
    refine Ends.ite (fun _ => Ends.error (Or.inl rfl)) fun _ => Ends.ok ?_
    exact ⟨h.bounded, fun hstate => ⟨(h.recovery hstate).cwnd,
      (h.recovery hstate).endOfRecovery, (h.recovery hstate).lastMaxCwndBytes,
      (h.recovery hstate).lastReductionTime⟩, h.reno, h.sampled⟩
  | packetAckOrLoss ackEvent lossEvent lrtt lossClock ackClock =>
    cases lossEvent with
    | none => exact onPacketAckOrLoss_ends sane h ackEvent lrtt lossClock ackClock
    | some loss =>
      exact onPacketAckOrLoss_ends sane (h.onPacketLoss sane loss lossClock) ackEvent lrtt
        lossClock ackClock
  | appIdle idle eventTime => exact Ends.ok (h.setAppIdle idle eventTime)
  | experimental enabled =>
    exact Ends.ok ⟨h.bounded, fun hstate => ⟨(h.recovery hstate).cwnd,
      (h.recovery hstate).endOfRecovery, (h.recovery hstate).lastMaxCwndBytes,
      (h.recovery hstate).lastReductionTime⟩, h.reno, h.sampled⟩

theorem run_ends (F : CubicFloat δ) (sane : cfg.Sane) (h : Inv cfg c) (es : List Event) :
    Ends Excusable (es.foldlM (step F cfg) c) (Inv cfg) := by
  induction es generalizing c with
  | nil => exact Ends.ok h
  | cons e es ih =>
    rw [List.foldlM_cons]
    exact (step_ends sane h e).bind fun c' hc' => ih hc'

/-- Every sequence of events ends in a state with a window within the bounds, and with what
`FastRecovery` relies on if it is in that state, or with an exception: no optional without a
value is read, no `CHECK` on the window fails and nothing is divided by zero. -/
theorem cwnd_bounded (F : CubicFloat δ) (cfg : CubicConfig) (sane : cfg.Sane)
    (initCwndBytes initSsthresh : Nat) (tcpFriendly ackTrain : Bool) (es : List Event) :
    (∀ c, es.foldlM (step F cfg) (new F cfg initCwndBytes initSsthresh tcpFriendly ackTrain) =
        .ok c →
      cfg.settings.minCwndInMss * cfg.udpSendPacketLen ≤ c.cwndBytes ∧
      c.cwndBytes ≤ cfg.settings.maxCwndInMss * cfg.udpSendPacketLen ∧
      (c.state = .fastRecovery → Recovering c)) ∧
    (∀ f, es.foldlM (step F cfg) (new F cfg initCwndBytes initSsthresh tcpFriendly ackTrain) =
        .error f → Excusable f) := by
  have hnew : Inv cfg (new F cfg initCwndBytes initSsthresh tcpFriendly ackTrain) :=
    inv_new sane initCwndBytes initSsthresh tcpFriendly ackTrain
  have hrun := run_ends F sane hnew es
  constructor
  · intro c hc
    have hinv := hrun.of_ok hc
    rw [← sane.minCwndBytes_eq, ← sane.maxCwndBytes_eq]
    exact ⟨hinv.bounded.lower, hinv.bounded.upper, hinv.recovery⟩
  · intro f hf
    exact hrun.of_error hf

/-- The floating-point functions, rounded down to integers. -/
def roundedFloat : CubicFloat Nat where
  zero := 0
  timeToOrigin bytesToOrigin packetLen :=
    Nat.findGreatest (fun k => k ^ 3 ≤ bytesToOrigin * 1000 * 1000 / packetLen * 2500) 4096
  cwndDelta packetLen timeToOrigin elapsed :=
    Int64.ofInt (packetLen * 4 * (elapsed - timeToOrigin) ^ 3 / 10 ^ 10)
  reduced cwndBytes := cwndBytes * 7 / 10
  lastMaxReduced cwndBytes := cwndBytes * 17 / 20
  renoCwnd estRenoCwnd ackedBytes packetLen :=
    estRenoCwnd + 9 * ackedBytes * packetLen / (17 * estRenoCwnd)

def defaultConfig : CubicConfig := ⟨(CwndSettings.mk 10 2 2000).setTransportSettings, 1252⟩

/-- A loss, an acknowledgement that ends the recovery, and one in `Steady`. -/
def lossyRun : List Event :=
  [.packetSent 1252, .packetSent 1252, .packetSent 1252,
    .packetAckOrLoss none (some ⟨1252, 100, 10, false⟩) 5000 100 100,
    .packetAckOrLoss (some ⟨200, some 1, 150, 1252, 1⟩) none 5000 200 200,
    .packetAckOrLoss (some ⟨3000000000, some 2, 160, 1252, 1⟩) none 5000 300 300]

theorem cwnd_bounded_lossyRun :
    ∃ c, lossyRun.foldlM (step roundedFloat defaultConfig)
        (new roundedFloat defaultConfig 0 uint64Max true false) = .ok c ∧
      defaultConfig.settings.minCwndInMss * defaultConfig.udpSendPacketLen ≤ c.cwndBytes ∧
      c.cwndBytes ≤ defaultConfig.settings.maxCwndInMss * defaultConfig.udpSendPacketLen := by
  have sane : defaultConfig.Sane :=
    ⟨by decide, by decide, by decide, by decide, by decide, by decide⟩
  have hrun : ∃ c, lossyRun.foldlM (step roundedFloat defaultConfig)
      (new roundedFloat defaultConfig 0 uint64Max true false) = .ok c ∧ c.cwndBytes = 13088 := by
    decide +kernel
  obtain ⟨c, hc, -⟩ := hrun
  have hbounds :=
    (cwnd_bounded roundedFloat defaultConfig sane 0 uint64Max true false lossyRun).1 c hc
  exact ⟨c, hc, hbounds.1, hbounds.2.1⟩

/-- With a maximum below the minimum, which `setTransportSettings` accepts, the first window is
below the lower bound, and the one after an acknowledgement above the upper bound. -/
theorem cwnd_out_of_bounds :
    let cfg : CubicConfig := ⟨(CwndSettings.mk 10 2 1).setTransportSettings, 1252⟩
    let c := new roundedFloat cfg 0 uint64Max true false
    c.cwndBytes < cfg.settings.minCwndInMss * cfg.udpSendPacketLen ∧
    ∃ c', [Event.packetSent 1252, .packetAckOrLoss (some ⟨200, some 0, 100, 1252, 1⟩) none 5000
        200 200].foldlM (step roundedFloat cfg) c = .ok c' ∧
      cfg.settings.maxCwndInMss * cfg.udpSendPacketLen < c'.cwndBytes :=
  ⟨by decide +kernel, by decide +kernel⟩

end Cubic

end MasqueQuic
