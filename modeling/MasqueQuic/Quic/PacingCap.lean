/-
The upper limit on the rate of a `TokenlessPacer`.

A pacer writes `batchSize` packets in every `writeInterval`. `setMaxPacingRate` limits the rate, but
`refreshPacingRate` compares the limit with the window over the round trip time, before the time is
scaled and the window brought up to its minimum. `PaceFits` says of a call that the rate that is
used in the end is no faster than the limit; while the calls meet it the limit is kept
(`call_capped`).
The functions are those of `TransportKnobs` in words of 64 bits, whose products wrap, with the
divisions by zero that no knob leads to; without a wrap they agree.
-/

import Mathlib.Tactic.Ring
import MasqueQuic.Lib.Run
import MasqueQuic.Quic.TransportKnobs

namespace MasqueQuic

namespace TokenlessPacer

/-! ### Products of 64 bits -/

inductive PaceFault where
  | divisionByZero
  | signedOverflow
  deriving DecidableEq

/-- The count of a `std::chrono::microseconds` that is made from an unsigned one. -/
def microsecondsOf (count : Nat) : Int := if count < 2 ^ 63 then count else count - 2 ^ 64

/-- The unsigned count with which a duration takes part in unsigned arithmetic. -/
def unsignedCount (interval : Int) : Nat := (interval % 2 ^ 64).toNat

/-- `cwndBytes * 1s / rtt`. -/
def wrappedTargetRate (cwndBytes rtt : Nat) : Nat :=
  if rtt = 0 then uint64Limit else cwndBytes * 1000000 % 2 ^ 64 / rtt

def cwndInPackets (udpSendPacketLen cwnd minCwndInMss : Nat) : Nat :=
  max minCwndInMss (cwnd / udpSendPacketLen)

variable (settings : KnobSettings) (udpSendPacketLen : Nat)

def calculateWrappedRate (cwnd minCwndInMss rtt : Nat) : Except PaceFault (Int × Nat) :=
  if settings.pacingTickInterval > rtt then .ok (0, settings.writeConnectionDataPacketsLimit)
  else if udpSendPacketLen = 0 then .error .divisionByZero
  else if rtt = 0 then .error .divisionByZero
  else
    let cwndInPackets := cwndInPackets udpSendPacketLen cwnd minCwndInMss
    let burstPerInterval := max settings.minBurstPackets
      (-(-(cwndInPackets * settings.pacingTickInterval) / (rtt : Int))).toNat
    if cwndInPackets = 0 then .error .divisionByZero
    else
      let interval := rtt * burstPerInterval % 2 ^ 64 / cwndInPackets
      .ok (if unsignedCount settings.pacingTickInterval > interval then settings.pacingTickInterval
        else microsecondsOf interval, burstPerInterval)

def setWrappedRate (p : TokenlessPacer) (rateBps : Nat) : TokenlessPacer :=
  let rateBps := min rateBps p.maxPacingRateBytesPerSec
  if rateBps = 0 then
    { p with batchSize := 0, writeInterval := settings.pacingTickInterval }.resetLastWrite
  else
    let batchSize := settings.writeConnectionDataPacketsLimit
    let interval := batchSize * udpSendPacketLen * 1000000 % 2 ^ 64 / rateBps
    { p with
      batchSize
      writeInterval := max (microsecondsOf interval) settings.pacingTickInterval }.resetLastWrite

/-- `rtt *= rttFactorNumerator_; rtt /= rttFactorDenominator_;`. -/
def scaledRtt (p : TokenlessPacer) (rtt : Nat) : Nat :=
  rtt * p.rttFactorNumerator.toNat / p.rttFactorDenominator.toNat

def refreshWrappedRate (p : TokenlessPacer) (cwndBytes rtt : Nat) :
    Except PaceFault TokenlessPacer :=
  if rtt = kDefaultMinRtt then .ok p
  else if wrappedTargetRate cwndBytes rtt > p.maxPacingRateBytesPerSec then
    .ok (p.setWrappedRate settings udpSendPacketLen p.maxPacingRateBytesPerSec)
  else if rtt < settings.pacingTickInterval then
    .ok { p with
      writeInterval := 0
      batchSize := settings.writeConnectionDataPacketsLimit }.resetLastWrite
  else if rtt * p.rttFactorNumerator.toNat ≥ 2 ^ 63 then .error .signedOverflow
  else if p.rttFactorDenominator = 0 then .error .divisionByZero
  else
    match calculateWrappedRate settings udpSendPacketLen cwndBytes p.minCwndInMss
      (p.scaledRtt rtt) with
    | .error fault => .error fault
    | .ok (interval, burstSize) =>
        .ok { p with writeInterval := interval, batchSize := burstSize }.resetLastWrite

/-- The bytes of a batch, times the microseconds of a second. -/
def batchBytes (p : TokenlessPacer) : Nat := p.batchSize * udpSendPacketLen * 1000000

def currentWrappedRate (p : TokenlessPacer) : Nat :=
  if p.writeInterval = 0 then uint64Limit
  else p.batchBytes udpSendPacketLen % 2 ^ 64 / unsignedCount p.writeInterval

def setMaxWrappedRate (p : TokenlessPacer) (maxRateBytesPerSec : Nat) : TokenlessPacer :=
  let p := { p with maxPacingRateBytesPerSec := maxRateBytesPerSec }
  if p.currentWrappedRate udpSendPacketLen > p.maxPacingRateBytesPerSec then
    p.setWrappedRate settings udpSendPacketLen p.maxPacingRateBytesPerSec
  else p

inductive PaceCall where
  | refreshPacingRate (cwndBytes rtt : Nat)
  | setPacingRate (rateBps : Nat)
  | setMaxPacingRate (maxRateBytesPerSec : Nat)
  | setRttFactor (factor : UInt8 × UInt8)

def call (p : TokenlessPacer) : PaceCall → Except PaceFault TokenlessPacer
  | .refreshPacingRate cwndBytes rtt =>
      p.refreshWrappedRate settings udpSendPacketLen cwndBytes rtt
  | .setPacingRate rateBps => .ok (p.setWrappedRate settings udpSendPacketLen rateBps)
  | .setMaxPacingRate maxRateBytesPerSec =>
      .ok (p.setMaxWrappedRate settings udpSendPacketLen maxRateBytesPerSec)
  | .setRttFactor factor => .ok (p.setRttFactor factor)

/-! ### The limit -/

/-- Where the pacer paces, a batch takes no more than the limit in its interval and a
microsecond. -/
def Capped (p : TokenlessPacer) : Prop :=
  p.writeInterval ≠ 0 →
    (p.batchBytes udpSendPacketLen : Int) ≤ p.maxPacingRateBytesPerSec * (p.writeInterval + 1)

/-- The bytes of a full batch, and the time that they take at the rate, fit their words. -/
def BatchFits (rate : Nat) : Prop :=
  settings.writeConnectionDataPacketsLimit * udpSendPacketLen * 1000000 < 2 ^ 64 ∧
    settings.writeConnectionDataPacketsLimit * udpSendPacketLen * 1000000 / rate < 2 ^ 63

/-- The window in packets, over the scaled round trip time, is no faster than the limit, with the
microsecond that is granted to each batch, and what is computed from them fits a word. -/
def RefreshFits (p : TokenlessPacer) (cwndBytes rtt : Nat) : Prop :=
  let window := cwndInPackets udpSendPacketLen cwndBytes p.minCwndInMss
  let largestBatch := max settings.minBurstPackets window
  largestBatch * (window * udpSendPacketLen * 1000000) ≤
      p.maxPacingRateBytesPerSec * (largestBatch * p.scaledRtt rtt + 1) ∧
    p.scaledRtt rtt * settings.minBurstPackets < 2 ^ 64 ∧
    p.scaledRtt rtt * settings.minBurstPackets / window < 2 ^ 63 ∧
    window * settings.pacingTickInterval + p.scaledRtt rtt ≤ 2 ^ 64

/-- The rate that is current is below the limit, or what is left of it takes no more than the limit
in a microsecond. -/
def MaxFits (p : TokenlessPacer) (maxRateBytesPerSec : Nat) : Prop :=
  p.batchBytes udpSendPacketLen < 2 ^ 64 ∧ p.writeInterval < 2 ^ 64 ∧
    (p.batchBytes udpSendPacketLen / p.writeInterval = maxRateBytesPerSec →
      p.batchBytes udpSendPacketLen % p.writeInterval ≤ maxRateBytesPerSec)

/-- The condition on a call that changes the rate, by the branch that is taken. -/
def RateFits (p : TokenlessPacer) : PaceCall → Prop
  | .refreshPacingRate cwndBytes rtt => rtt = kDefaultMinRtt ∨
      ((p.maxPacingRateBytesPerSec < wrappedTargetRate cwndBytes rtt →
          BatchFits settings udpSendPacketLen p.maxPacingRateBytesPerSec) ∧
        (¬ p.maxPacingRateBytesPerSec < wrappedTargetRate cwndBytes rtt →
          rtt < settings.pacingTickInterval ∨ p.scaledRtt rtt < settings.pacingTickInterval ∨
            RefreshFits settings udpSendPacketLen p cwndBytes rtt))
  | .setPacingRate rateBps =>
      BatchFits settings udpSendPacketLen (min rateBps p.maxPacingRateBytesPerSec)
  | .setMaxPacingRate maxRateBytesPerSec =>
      (maxRateBytesPerSec < p.currentWrappedRate udpSendPacketLen →
        BatchFits settings udpSendPacketLen maxRateBytesPerSec) ∧
      (¬ maxRateBytesPerSec < p.currentWrappedRate udpSendPacketLen →
        p.writeInterval = 0 ∨ MaxFits udpSendPacketLen p maxRateBytesPerSec)
  | .setRttFactor _ => True

/-- The condition on a call. -/
def PaceFits (p : TokenlessPacer) (c : PaceCall) : Prop :=
  0 ≤ settings.pacingTickInterval ∧ RateFits settings udpSendPacketLen p c

instance (rate : Nat) : Decidable (BatchFits settings udpSendPacketLen rate) :=
  inferInstanceAs (Decidable (_ ∧ _))

instance (p : TokenlessPacer) (cwndBytes rtt : Nat) :
    Decidable (RefreshFits settings udpSendPacketLen p cwndBytes rtt) :=
  inferInstanceAs (Decidable (_ ∧ _ ∧ _ ∧ _))

instance (p : TokenlessPacer) (maxRateBytesPerSec : Nat) :
    Decidable (MaxFits udpSendPacketLen p maxRateBytesPerSec) :=
  inferInstanceAs (Decidable (_ ∧ _ ∧ (_ → _)))

instance (p : TokenlessPacer) : (c : PaceCall) → Decidable (RateFits settings udpSendPacketLen p c)
  | .refreshPacingRate _ _ => inferInstanceAs (Decidable (_ ∨ ((_ → _) ∧ (_ → _ ∨ _ ∨ _))))
  | .setPacingRate _ => inferInstanceAs (Decidable (BatchFits settings udpSendPacketLen _))
  | .setMaxPacingRate _ => inferInstanceAs (Decidable ((_ → _) ∧ (_ → _ ∨ _)))
  | .setRttFactor _ => inferInstanceAs (Decidable True)

instance (p : TokenlessPacer) (c : PaceCall) :
    Decidable (PaceFits settings udpSendPacketLen p c) :=
  inferInstanceAs (Decidable (_ ∧ _))

variable {settings : KnobSettings} {udpSendPacketLen : Nat}

/-! ### Without a wrap -/

theorem microsecondsOf_of_lt {count : Nat} (h : count < 2 ^ 63) : microsecondsOf count = count :=
  if_pos h

theorem setWrappedRate_eq {p : TokenlessPacer} {rateBps : Nat}
    (hfits : BatchFits settings udpSendPacketLen (min rateBps p.maxPacingRateBytesPerSec)) :
    p.setWrappedRate settings udpSendPacketLen rateBps =
      p.setPacingRate settings udpSendPacketLen rateBps := by
  unfold setWrappedRate setPacingRate
  dsimp only
  rw [Nat.mod_eq_of_lt hfits.1, microsecondsOf_of_lt hfits.2]

/-! ### Quotients -/

/-- Rounded down, a product over one factor is within the limit if the other factor is. -/
theorem le_mul_div_succ {bytes rate limit : Nat} (hpos : 0 < rate) (hle : rate ≤ limit) :
    bytes ≤ limit * (bytes / rate + 1) := by
  have hlt := Nat.lt_mul_div_succ bytes hpos
  have hmul := Nat.mul_le_mul_right (bytes / rate + 1) hle
  omega

/-- The same for a batch, of which there are as many in a round trip as the window allows. -/
theorem batch_le {batch window rtt bytes limit : Nat} (hpos : 0 < window)
    (hle : batch * (window * bytes) ≤ limit * (batch * rtt + 1)) :
    batch * bytes ≤ limit * (rtt * batch / window + 1) := by
  have hlt := Nat.lt_mul_div_succ (rtt * batch) hpos
  rw [Nat.mul_comm batch rtt] at hle
  refine Nat.le_of_mul_le_mul_left ?_ hpos
  calc window * (batch * bytes) = batch * (window * bytes) := by ring
    _ ≤ limit * (rtt * batch + 1) := hle
    _ ≤ limit * (window * (rtt * batch / window + 1)) := Nat.mul_le_mul_left limit hlt
    _ = window * (limit * (rtt * batch / window + 1)) := by ring

/-- A smaller batch has the microsecond for fewer packets. -/
theorem batch_le_of_le {batch largest bytes limit rtt : Nat} (hle : batch ≤ largest)
    (h : largest * bytes ≤ limit * (largest * rtt + 1)) :
    batch * bytes ≤ limit * (batch * rtt + 1) := by
  by_cases hslow : bytes ≤ limit * rtt
  · calc batch * bytes ≤ batch * (limit * rtt) := Nat.mul_le_mul_left batch hslow
      _ = limit * (batch * rtt) := by ring
      _ ≤ limit * (batch * rtt + 1) := Nat.mul_le_mul_left limit (Nat.le_succ _)
  · obtain ⟨excess, rfl⟩ := Nat.exists_eq_add_of_lt (Nat.not_le.mp hslow)
    have hexcess : largest * (excess + 1) ≤ limit := by
      have hsum : limit * (largest * rtt + 1) = largest * (limit * rtt) + limit := by ring
      rw [hsum, Nat.add_assoc, Nat.mul_add] at h
      omega
    have hbatch := Nat.le_trans (Nat.mul_le_mul_right (excess + 1) hle) hexcess
    calc batch * (limit * rtt + excess + 1) = limit * (batch * rtt) + batch * (excess + 1) := by ring
      _ ≤ limit * (batch * rtt) + limit := Nat.add_le_add_left hbatch _
      _ = limit * (batch * rtt + 1) := by ring

/-- A quotient rounded up is not more than one above the exact one. -/
theorem mul_ceil_lt {a : Int} {rtt : Nat} (ha : 0 ≤ a) (hpos : 0 < rtt) :
    (rtt * (-(-a / (rtt : Int))).toNat : Nat) < a + rtt := by
  have hmod := Int.emod_lt_of_pos (-a) (Int.natCast_pos.mpr hpos)
  have hdiv := Int.mul_ediv_add_emod (-a) rtt
  have hneg : -a / (rtt : Int) ≤ 0 := by
    by_contra hone
    have hmul : (rtt : Int) * 1 ≤ rtt * (-a / rtt) :=
      Int.mul_le_mul_of_nonneg_left (by omega) (by omega)
    have hnonneg := Int.emod_nonneg (-a) (Int.natCast_ne_zero.mpr (Nat.ne_of_gt hpos))
    omega
  have hcast : ((-(-a / (rtt : Int))).toNat : Int) = -(-a / (rtt : Int)) :=
    Int.toNat_of_nonneg (by omega)
  rw [Int.natCast_mul, hcast, Int.mul_neg]
  omega

/-! ### What the calls keep -/

/-- The invariant. -/
def Paced (udpSendPacketLen : Nat) (p : TokenlessPacer) : Prop :=
  0 ≤ p.writeInterval ∧ p.Capped udpSendPacketLen

theorem paced_resetLastWrite {p : TokenlessPacer} :
    Paced udpSendPacketLen p.resetLastWrite ↔ Paced udpSendPacketLen p := by
  unfold resetLastWrite
  split
  · rfl
  · rfl

theorem paced_of_zero {p : TokenlessPacer} (h : p.writeInterval = 0) : Paced udpSendPacketLen p :=
  ⟨Int.le_of_eq h.symm, fun hne => absurd h hne⟩

theorem paced_of_le {p : TokenlessPacer} {interval : Nat} (hinterval : interval ≤ p.writeInterval)
    (h : p.batchBytes udpSendPacketLen ≤ p.maxPacingRateBytesPerSec * (interval + 1)) :
    Paced udpSendPacketLen p := by
  refine ⟨by omega, fun _ => ?_⟩
  have hmul : (p.maxPacingRateBytesPerSec : Int) * (interval + 1) ≤
      p.maxPacingRateBytesPerSec * (p.writeInterval + 1) :=
    Int.mul_le_mul_of_nonneg_left (by omega) (by omega)
  have hcast : (p.batchBytes udpSendPacketLen : Int) ≤
      p.maxPacingRateBytesPerSec * (interval + 1) := by exact_mod_cast h
  exact hcast.trans hmul

theorem paced_setPacingRate (htick : 0 ≤ settings.pacingTickInterval) (p : TokenlessPacer)
    (rateBps : Nat) :
    Paced udpSendPacketLen (p.setPacingRate settings udpSendPacketLen rateBps) := by
  unfold setPacingRate
  dsimp only
  split
  · rw [paced_resetLastWrite]
    refine ⟨htick, fun _ => ?_⟩
    have hlimit : (0 : Int) ≤ p.maxPacingRateBytesPerSec * (settings.pacingTickInterval + 1) :=
      Int.mul_nonneg (Int.natCast_nonneg _) (by omega)
    simpa [batchBytes] using hlimit
  · next hrate =>
      rw [paced_resetLastWrite]
      apply paced_of_le (Int.le_max_left _ _)
      exact le_mul_div_succ (Nat.pos_of_ne_zero hrate) (Nat.min_le_right _ _)

theorem le_intervalOf {tick : Int} {count : Nat} (htick : 0 ≤ tick) (hcount : count < 2 ^ 63) :
    (count : Int) ≤ if unsignedCount tick > count then tick else microsecondsOf count := by
  split
  · next hlt =>
      unfold unsignedCount at hlt
      omega
  · rw [microsecondsOf_of_lt hcount]

/-- What is computed for a window and a round trip time that fit. -/
theorem paced_calculateWrappedRate {p : TokenlessPacer} {cwndBytes rtt burstSize : Nat}
    {interval : Int} (htick : 0 ≤ settings.pacingTickInterval) (hscaled : p.scaledRtt rtt < 2 ^ 63)
    (hfits : p.scaledRtt rtt < settings.pacingTickInterval ∨
      RefreshFits settings udpSendPacketLen p cwndBytes rtt)
    (h : calculateWrappedRate settings udpSendPacketLen cwndBytes p.minCwndInMss (p.scaledRtt rtt) =
      .ok (interval, burstSize)) : Paced udpSendPacketLen
        { p with writeInterval := interval, batchSize := burstSize } := by
  unfold calculateWrappedRate at h
  by_cases htooFast : settings.pacingTickInterval > p.scaledRtt rtt
  · rw [if_pos htooFast] at h
    cases h
    exact paced_of_zero rfl
  · rw [if_neg htooFast] at h
    obtain ⟨hrate, hburst, hquotient, hword⟩ := hfits.resolve_left fun hlt => htooFast hlt
    generalize p.scaledRtt rtt = scaled at *
    by_cases hlen : udpSendPacketLen = 0
    · rw [if_pos hlen] at h
      cases h
    rw [if_neg hlen] at h
    by_cases hzero : scaled = 0
    · rw [if_pos hzero] at h
      cases h
    rw [if_neg hzero] at h
    dsimp only at h
    generalize cwndInPackets udpSendPacketLen cwndBytes p.minCwndInMss = window at *
    by_cases hwindow : window = 0
    · rw [if_pos hwindow] at h
      cases h
    rw [if_neg hwindow] at h
    have hpos := Nat.pos_of_ne_zero hwindow
    have hceil := mul_ceil_lt (Int.mul_nonneg (Int.natCast_nonneg window) htick)
      (Nat.pos_of_ne_zero hzero)
    generalize (-(-(window * settings.pacingTickInterval) / (scaled : Int))).toNat = ceil at *
    have hceilWindow : ceil ≤ window := by
      have hticks : (window : Int) * settings.pacingTickInterval ≤ window * scaled :=
        Int.mul_le_mul_of_nonneg_left (Int.not_lt.mp htooFast) (Int.natCast_nonneg window)
      have hlt : scaled * ceil < scaled * (window + 1) := by
        rw [Nat.mul_succ, Nat.mul_comm scaled window]
        omega
      exact Nat.lt_succ_iff.mp (Nat.lt_of_mul_lt_mul_left hlt)
    -- Neither the product nor the interval is wrapped.
    have hproduct : scaled * max settings.minBurstPackets ceil < 2 ^ 64 := by
      rw [← Nat.mul_max_mul_left]
      omega
    have hcount : scaled * max settings.minBurstPackets ceil / window < 2 ^ 63 := by
      rcases Nat.le_total ceil settings.minBurstPackets with hle | hle
      · rwa [Nat.max_eq_left hle]
      · rw [Nat.max_eq_right hle]
        refine Nat.lt_of_le_of_lt (Nat.div_le_of_le_mul ?_) hscaled
        rw [Nat.mul_comm window scaled]
        exact Nat.mul_le_mul_left scaled hceilWindow
    rw [Nat.mod_eq_of_lt hproduct] at h
    have hinterval := le_intervalOf htick hcount
    rw [Except.ok.injEq, Prod.mk.injEq] at h
    obtain ⟨rfl, rfl⟩ := h
    apply paced_of_le hinterval
    rw [Nat.mul_assoc window] at hrate
    have hbatch := batch_le hpos (batch_le_of_le (max_le_max_left _ hceilWindow) hrate)
    rwa [← Nat.mul_assoc] at hbatch

/-- A quotient within the limit, with what is left of it. -/
theorem le_mul_succ_of_div {bytes interval limit : Nat} (hpos : 0 < interval)
    (hle : bytes / interval ≤ limit) (hrest : bytes / interval = limit → bytes % interval ≤ limit) :
    bytes ≤ limit * (interval + 1) := by
  have hdiv := Nat.div_add_mod bytes interval
  have hmod := Nat.mod_lt bytes hpos
  rw [Nat.mul_succ]
  by_cases heq : bytes / interval = limit
  · have hleft := hrest heq
    rw [heq, Nat.mul_comm] at hdiv
    omega
  · have hmul : interval * (bytes / interval + 1) ≤ interval * limit :=
      Nat.mul_le_mul_left interval (by omega)
    rw [Nat.mul_succ, Nat.mul_comm interval limit] at hmul
    omega

theorem paced_setMaxWrappedRate (htick : 0 ≤ settings.pacingTickInterval) {p : TokenlessPacer}
    (hp : Paced udpSendPacketLen p) {maxRateBytesPerSec : Nat}
    (hfits : RateFits settings udpSendPacketLen p (.setMaxPacingRate maxRateBytesPerSec)) :
    Paced udpSendPacketLen (p.setMaxWrappedRate settings udpSendPacketLen maxRateBytesPerSec) := by
  obtain ⟨henforced, hkept⟩ := hfits
  unfold setMaxWrappedRate
  dsimp only
  split
  · next hfast =>
    rw [setWrappedRate_eq (by rw [Nat.min_self]; exact henforced hfast)]
    exact paced_setPacingRate htick _ _
  · next hfast =>
    refine ⟨hp.1, fun hne => ?_⟩
    obtain ⟨hword, hshort, hrest⟩ := (hkept hfast).resolve_left hne
    change ¬ maxRateBytesPerSec < p.currentWrappedRate udpSendPacketLen at hfast
    obtain ⟨interval, hinterval⟩ := Int.eq_ofNat_of_zero_le hp.1
    unfold currentWrappedRate at hfast
    dsimp only at hne ⊢
    rw [hinterval] at hne hfast hshort hrest ⊢
    have hcount : unsignedCount interval = interval := by
      unfold unsignedCount
      omega
    rw [if_neg hne, hcount, Nat.mod_eq_of_lt hword] at hfast
    have hle := le_mul_succ_of_div (Nat.pos_of_ne_zero fun hzero => hne (by rw [hzero]; rfl))
      (Nat.le_of_not_lt hfast) fun heq => by exact_mod_cast hrest (by exact_mod_cast heq)
    exact_mod_cast hle

theorem paced_refreshWrappedRate {p p' : TokenlessPacer} {cwndBytes rtt : Nat}
    (hp : Paced udpSendPacketLen p) (htick : 0 ≤ settings.pacingTickInterval)
    (hfits : RateFits settings udpSendPacketLen p (.refreshPacingRate cwndBytes rtt))
    (h : p.refreshWrappedRate settings udpSendPacketLen cwndBytes rtt = .ok p') :
    Paced udpSendPacketLen p' := by
  unfold refreshWrappedRate at h
  by_cases hdefault : rtt = kDefaultMinRtt
  · rw [if_pos hdefault] at h
    cases h
    exact hp
  rw [if_neg hdefault] at h
  obtain ⟨hlimited, hrate⟩ := Or.resolve_left hfits hdefault
  by_cases htarget : p.maxPacingRateBytesPerSec < wrappedTargetRate cwndBytes rtt
  · rw [if_pos htarget] at h
    cases h
    rw [setWrappedRate_eq (by rw [Nat.min_self]; exact hlimited htarget)]
    exact paced_setPacingRate htick _ _
  rw [if_neg htarget] at h
  by_cases hfast : rtt < settings.pacingTickInterval
  · rw [if_pos hfast] at h
    cases h
    rw [paced_resetLastWrite]
    exact paced_of_zero rfl
  rw [if_neg hfast] at h
  split at h
  · cases h
  · next hword =>
    split at h
    · cases h
    · split at h
      · cases h
      · next interval burstSize hcalculated =>
          cases h
          rw [paced_resetLastWrite]
          have hscaled : p.scaledRtt rtt < 2 ^ 63 :=
            Nat.lt_of_le_of_lt (Nat.div_le_self _ _) (Nat.not_le.mp hword)
          exact paced_calculateWrappedRate htick hscaled ((hrate htarget).resolve_left hfast) hcalculated

/-- Every call that fits keeps the invariant. -/
theorem paced_call {p p' : TokenlessPacer} {c : PaceCall} (hp : Paced udpSendPacketLen p)
    (hfits : PaceFits settings udpSendPacketLen p c)
    (h : p.call settings udpSendPacketLen c = .ok p') : Paced udpSendPacketLen p' := by
  obtain ⟨htick, hrate⟩ := hfits
  cases c with
  | refreshPacingRate cwndBytes rtt => exact paced_refreshWrappedRate hp htick hrate h
  | setPacingRate rateBps =>
    cases h
    rw [setWrappedRate_eq hrate]
    exact paced_setPacingRate htick _ _
  | setMaxPacingRate maxRateBytesPerSec =>
    cases h
    exact paced_setMaxWrappedRate htick hp hrate
  | setRttFactor factor =>
    cases h
    exact hp

/-- In every run of a new pacer whose calls fit, the limit is kept in every state. -/
theorem call_capped (settings : KnobSettings) (udpSendPacketLen minCwndInMss : Nat)
    (calls : List PaceCall)
    (hfits : Meets (call settings udpSendPacketLen) (PaceFits settings udpSendPacketLen)
      (new settings minCwndInMss) calls) :
    ∀ made p, made <+: calls →
      made.foldlM (call settings udpSendPacketLen) (new settings minCwndInMss) = .ok p →
        p.Capped udpSendPacketLen := by
  intro made p hmade hrun
  have hpaced : Paced udpSendPacketLen p :=
    run_invariant_of_meets (fun p c p' hp hc h => paced_call hp hc h) (paced_of_zero rfl)
      (hfits.of_prefix hmade) hrun
  exact hpaced.2

/-- A window of ten packets in a tenth of a second, at the limit of 1000000 bytes in a second. -/
theorem call_capped_window : ∃ p, [PaceCall.setMaxPacingRate 1000000, .setRttFactor (1, 1),
    .refreshPacingRate 10000 100000].foldlM (call .default 1000) (new .default 10) = .ok p ∧
      p.writeInterval = 50000 ∧ p.Capped 1000 :=
  ⟨_, rfl, rfl, call_capped .default 1000 10 [.setMaxPacingRate 1000000, .setRttFactor (1, 1),
    .refreshPacingRate 10000 100000] (by decide) _ _ (List.prefix_refl _) rfl⟩

/-- With half of the round trip time the rate is twice the one that was compared with the limit. -/
theorem call_not_capped : ∃ p, [PaceCall.setMaxPacingRate 100000, .setRttFactor (1, 2),
    .refreshPacingRate 10000 100000].foldlM (call .default 1000) (new .default 10) = .ok p ∧
      p.writeInterval = 25000 ∧ p.batchSize = 5 ∧ ¬ p.Capped 1000 := by
  refine ⟨_, rfl, rfl, rfl, fun h => ?_⟩
  have hle := h (by decide)
  exact absurd hle (by decide)

end TokenlessPacer

end MasqueQuic
