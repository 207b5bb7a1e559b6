/-
The rate of a path that is being validated.

The limiter hands out a credit of two packets for each round trip. The write loop rounds the
credit up to whole packets before it compares, and the packet is then taken off the credit as
it is, on a counter that does not go below zero. `refills`, `sent` and `wrapped` record what
has become of the credit and are read by nothing.
-/

import Mathlib.Data.List.Chain
import MasqueQuic.Quic.PathValidation

namespace MasqueQuic

variable {κ : Type}

/-! ### A path with its limiter -/

namespace ServerPath

/-- A challenge is in progress, and `limiter` decides what may be sent. -/
structure Limited (s : ServerPath κ) (limiter : PendingPathRateLimiter) : Prop where
  validating : s.Validating
  pathValidationLimiter : s.pathValidationLimiter = some limiter
  writableBytesLimit : s.writableBytesLimit = none

/-- The limiter after a check at `now`. -/
def checked (s : ServerPath κ) (now : Nat) : Option PendingPathRateLimiter :=
  s.pathValidationLimiter.map (·.currentCredit now s.limiterRtt)

def creditAt (s : ServerPath κ) (now : Nat) : Nat := (s.checked now).elim 0 (·.credit)

/-- The write loop builds a packet of this size. -/
def Builds (s : ServerPath κ) (now : Nat) (getWritableBytes : Option Nat) (encodedSize : Nat) : Prop :=
  0 < encodedSize ∧
    encodedSize ≤ min s.udpSendPacketLen (s.ceilWritableBytes (s.creditAt now) getWritableBytes)

instance (s : ServerPath κ) (now : Nat) (getWritableBytes : Option Nat) (encodedSize : Nat) :
    Decidable (s.Builds now getWritableBytes encodedSize) :=
  inferInstanceAs (Decidable (_ ∧ _))

variable {s : ServerPath κ} {limiter : PendingPathRateLimiter} {now : Nat}

theorem Limited.creditAt (hs : s.Limited limiter) :
    s.creditAt now = (limiter.currentCredit now s.limiterRtt).credit := by
  rw [ServerPath.creditAt, checked, hs.pathValidationLimiter]
  rfl

theorem Limited.challengeSent (hs : s.Limited limiter) (now : Nat) :
    ∃ t, s.challengeSent now = .ok t ∧ t.Limited limiter ∧
      t.udpSendPacketLen = s.udpSendPacketLen := by
  unfold ServerPath.challengeSent
  cases hpending : s.control.pathChallenge with
  | none => exact ⟨s, rfl, hs, rfl⟩
  | some pathData =>
    refine ⟨_, rfl, ⟨.inr ?_, hs.pathValidationLimiter, hs.writableBytesLimit⟩, rfl⟩
    rw [hpending]
    rfl

theorem Limited.updateConnection (hs : s.Limited limiter) (now encodedSize : Nat)
    (challengeFits : Bool) :
    ∃ t, s.updateConnection now encodedSize challengeFits = .ok t ∧
      t.Limited (limiter.onPacketSent encodedSize) ∧ t.udpSendPacketLen = s.udpSendPacketLen := by
  have hsent : ∃ t, (if challengeFits then s.challengeSent now else .ok s) = .ok t ∧
      t.Limited limiter ∧ t.udpSendPacketLen = s.udpSendPacketLen := by
    cases challengeFits with
    | false => exact ⟨s, rfl, hs, rfl⟩
    | true => exact hs.challengeSent now
  obtain ⟨t, ht, hlimited, hlen⟩ := hsent
  rw [ServerPath.updateConnection, ht, except_ok_bind]
  refine ⟨_, rfl, ⟨hlimited.validating, ?_, hlimited.writableBytesLimit⟩, hlen⟩
  dsimp only
  rw [if_pos hlimited.validating, hlimited.pathValidationLimiter]
  rfl

theorem Limited.check (hs : s.Limited limiter) (now : Nat) (getWritableBytes : Option Nat) :
    ∃ t, s.congestionControlWritableBytes now getWritableBytes =
        .ok (s.ceilWritableBytes (s.creditAt now) getWritableBytes, t) ∧
      t.Limited (limiter.currentCredit now s.limiterRtt) ∧
      t.udpSendPacketLen = s.udpSendPacketLen := by
  refine ⟨{ s with pathValidationLimiter := some (limiter.currentCredit now s.limiterRtt) }, ?_,
    ⟨hs.validating, rfl, hs.writableBytesLimit⟩, rfl⟩
  rw [congestionControlWritableBytes, pathWritableBytes_of_validating now hs.validating
    hs.pathValidationLimiter hs.writableBytesLimit, except_ok_bind, hs.creditAt]
  simp only [ceilWritableBytes, roundUp, pure, Except.pure]

/-- One turn of the write loop: the credit is checked, and a packet that is built is taken
off it. -/
theorem Limited.write (hs : s.Limited limiter) (now : Nat) (getWritableBytes : Option Nat)
    (encodedSize : Nat) (challengeFits : Bool) :
    ∃ t, s.write now getWritableBytes encodedSize challengeFits = .ok t ∧
      t.Limited (if s.Builds now getWritableBytes encodedSize then
        (limiter.currentCredit now s.limiterRtt).onPacketSent encodedSize
        else limiter.currentCredit now s.limiterRtt) ∧
      t.udpSendPacketLen = s.udpSendPacketLen := by
  obtain ⟨t, ht, hlimited, hlen⟩ := hs.check now getWritableBytes
  rw [ServerPath.write, ht, except_ok_bind]
  dsimp only
  rw [hlen]
  by_cases hbuilds : s.Builds now getWritableBytes encodedSize
  · rw [if_pos hbuilds, if_pos (by exact hbuilds)]
    obtain ⟨u, hu, hlimited', hlen'⟩ := hlimited.updateConnection now encodedSize challengeFits
    exact ⟨u, hu, hlimited', hlen'.trans hlen⟩
  · rw [if_neg hbuilds, if_neg (by exact hbuilds)]
    exact ⟨t, rfl, hlimited, hlen⟩

end ServerPath

/-! ### Runs -/

/-- What happens on the path while it is being validated. -/
inductive LimitedEvent where
  | check (now : Nat) (getWritableBytes : Option Nat)
  | write (now : Nat) (getWritableBytes : Option Nat) (encodedSize : Nat) (challengeFits : Bool)
  | probe (now encodedSize : Nat) (challengeFits : Bool)
  | lossAlarm (frames : List QuicSimpleFrame)
  | rttSample (rttSample ackDelay : Nat)
  deriving DecidableEq

/-- A refill: the time of the check and the round trip time it went by. -/
structure Refill where
  time : Nat
  rtt : Nat
  deriving DecidableEq

structure LimitedPath (κ : Type) where
  path : ServerPath κ
  /-- The refills, the last one first. -/
  refills : List Refill
  /-- The bytes that the write loop has sent since the last refill. -/
  sent : Nat
  /-- The credit has gone below zero. -/
  wrapped : Bool

namespace LimitedPath

/-- The records after a check at `now`. -/
def checks (s : LimitedPath κ) (now : Nat) : LimitedPath κ :=
  if ∃ limiter ∈ s.path.pathValidationLimiter, limiter.Refills now s.path.limiterRtt then
    { s with refills := ⟨now, s.path.limiterRtt⟩ :: s.refills, sent := 0 }
  else s

def step (s : LimitedPath κ) : LimitedEvent → Except PathFault (LimitedPath κ)
  | .check now getWritableBytes => do
      let (_, path) ← s.path.congestionControlWritableBytes now getWritableBytes
      return { s.checks now with path }
  | .write now getWritableBytes encodedSize challengeFits => do
      let path ← s.path.write now getWritableBytes encodedSize challengeFits
      if s.path.Builds now getWritableBytes encodedSize then
        return { s.checks now with
          path
          sent := (s.checks now).sent + encodedSize
          wrapped := (s.checks now).wrapped || decide (s.path.creditAt now < encodedSize) }
      else return { s.checks now with path }
  | .probe now encodedSize challengeFits => do
      let path ← s.path.updateConnection now encodedSize challengeFits
      let credit := s.path.pathValidationLimiter.elim 0 (·.credit)
      return { s with path, wrapped := s.wrapped || decide (credit < encodedSize) }
  | .lossAlarm frames => .ok { s with path := s.path.lost frames }
  | .rttSample rttSample ackDelay =>
      .ok { s with path := { s.path with lossState := updateRtt s.path.lossState rttSample ackDelay } }

/-- Each refill comes more than a round trip after the one before. -/
def Spaced (refills : List Refill) : Prop :=
  refills.IsChain fun later earlier => earlier.time + later.rtt < later.time

/-- What the limiter is for: since the last refill the write loop has sent less than one packet
beyond the maximum credit, refills are a round trip apart, and the credit has not gone below
zero. -/
structure WithinRate (s : LimitedPath κ) : Prop where
  wrapped : s.wrapped = false
  sent : s.sent < kMinCwndInMss * s.path.udpSendPacketLen + s.path.udpSendPacketLen
  refills : Spaced s.refills

/-- The credit covers the packet, if one is sent. -/
def Covered (s : LimitedPath κ) : LimitedEvent → Prop
  | .write now getWritableBytes encodedSize _ =>
      s.path.Builds now getWritableBytes encodedSize → encodedSize ≤ s.path.creditAt now
  | .probe _ encodedSize _ => encodedSize ≤ s.path.pathValidationLimiter.elim 0 (·.credit)
  | _ => True

instance (s : LimitedPath κ) (event : LimitedEvent) : Decidable (s.Covered event) :=
  match event with
  | .write now getWritableBytes encodedSize _ =>
      inferInstanceAs (Decidable (s.path.Builds now getWritableBytes encodedSize →
        encodedSize ≤ s.path.creditAt now))
  | .probe _ encodedSize _ =>
      inferInstanceAs (Decidable (encodedSize ≤ s.path.pathValidationLimiter.elim 0 (·.credit)))
  | .check _ _ => isTrue trivial
  | .lossAlarm _ => isTrue trivial
  | .rttSample _ _ => isTrue trivial

structure Inv (s : LimitedPath κ) (limiter : PendingPathRateLimiter) : Prop where
  limited : s.path.Limited limiter
  len : 0 < s.path.udpSendPacketLen
  maxCredit : limiter.maxCredit = kMinCwndInMss * s.path.udpSendPacketLen % 2 ^ 64
  credit : limiter.credit + s.sent ≤ limiter.maxCredit
  lastChecked : limiter.lastChecked = s.refills.head?.map (·.time)
  refills : Spaced s.refills
  wrapped : s.wrapped = false

variable {s : LimitedPath κ} {limiter : PendingPathRateLimiter} {now : Nat}

theorem Inv.withinRate (hs : s.Inv limiter) : s.WithinRate := by
  refine ⟨hs.wrapped, ?_, hs.refills⟩
  have hcredit := hs.credit
  have hmax := hs.maxCredit
  have hlen := hs.len
  have hmod := Nat.mod_le (kMinCwndInMss * s.path.udpSendPacketLen) (2 ^ 64)
  omega

/-- A check of the credit. -/
theorem Inv.checks (hs : s.Inv limiter) {path : ServerPath κ}
    (hpath : path.Limited (limiter.currentCredit now s.path.limiterRtt))
    (hlen : path.udpSendPacketLen = s.path.udpSendPacketLen) :
    ({ s.checks now with path } : LimitedPath κ).Inv
      (limiter.currentCredit now s.path.limiterRtt) := by
  by_cases hrefill : limiter.Refills now s.path.limiterRtt
  · have hchecks : s.checks now =
        { s with refills := ⟨now, s.path.limiterRtt⟩ :: s.refills, sent := 0 } :=
      if_pos ⟨limiter, hs.limited.pathValidationLimiter, hrefill⟩
    have hcredit : limiter.currentCredit now s.path.limiterRtt =
        { limiter with lastChecked := some now, credit := limiter.maxCredit } := if_pos hrefill
    rw [hcredit] at hpath ⊢
    rw [hchecks]
    constructor
    · exact hpath
    · exact hlen ▸ hs.len
    · exact hlen ▸ hs.maxCredit
    · exact Nat.le_refl limiter.maxCredit
    · rfl
    · refine List.isChain_cons.mpr ⟨fun earlier hearlier => ?_, hs.refills⟩
      refine hrefill earlier.time ?_
      rw [hs.lastChecked, hearlier]
      rfl
    · exact hs.wrapped
  · have hchecks : s.checks now = s := by
      refine if_neg ?_
      rintro ⟨l, hl, hrefills⟩
      rw [hs.limited.pathValidationLimiter] at hl
      cases hl
      exact hrefill hrefills
    have hcredit : limiter.currentCredit now s.path.limiterRtt = limiter := if_neg hrefill
    rw [hcredit] at hpath ⊢
    rw [hchecks]
    exact ⟨hpath, hlen ▸ hs.len, hlen ▸ hs.maxCredit, hs.credit, hs.lastChecked, hs.refills,
      hs.wrapped⟩

/-- A packet that the credit covers is taken off it. -/
theorem Inv.takes (hs : s.Inv limiter) {path : ServerPath κ} {encodedSize : Nat} (sent : Nat)
    (hpath : path.Limited (limiter.onPacketSent encodedSize))
    (hlen : path.udpSendPacketLen = s.path.udpSendPacketLen) (hcovered : encodedSize ≤ limiter.credit)
    (hsent : sent ≤ s.sent + encodedSize) :
    ({ s with path, sent } : LimitedPath κ).Inv (limiter.onPacketSent encodedSize) := by
  have hbound := hs.credit
  have hcredit : (limiter.onPacketSent encodedSize).credit = limiter.credit - encodedSize :=
    if_pos hcovered
  constructor
  · exact hpath
  · exact hlen ▸ hs.len
  · exact hlen ▸ hs.maxCredit
  · rw [hcredit]
    change limiter.credit - encodedSize + sent ≤ limiter.maxCredit
    omega
  · exact hs.lastChecked
  · exact hs.refills
  · exact hs.wrapped

theorem Inv.step (hs : s.Inv limiter) (event : LimitedEvent) (hcovered : s.Covered event) :
    ∃ t, s.step event = .ok t ∧ ∃ limiter', t.Inv limiter' := by
  cases event with
  | check now getWritableBytes =>
    obtain ⟨path, hpath, hlimited, hlen⟩ := hs.limited.check now getWritableBytes
    rw [LimitedPath.step, hpath, except_ok_bind]
    exact ⟨_, rfl, _, hs.checks hlimited hlen⟩
  | write now getWritableBytes encodedSize challengeFits =>
    obtain ⟨path, hpath, hlimited, hlen⟩ :=
      hs.limited.write now getWritableBytes encodedSize challengeFits
    rw [LimitedPath.step, hpath, except_ok_bind]
    by_cases hbuilds : s.path.Builds now getWritableBytes encodedSize
    · rw [if_pos hbuilds] at hlimited ⊢
      have hfits := hcovered hbuilds
      rw [decide_eq_false (not_lt.mpr hfits), Bool.or_false]
      obtain ⟨checked, -, hchecked, hlen'⟩ := hs.limited.check now getWritableBytes
      rw [hs.limited.creditAt] at hfits
      exact ⟨_, rfl, _, (hs.checks hchecked hlen').takes ((s.checks now).sent + encodedSize) hlimited
        (hlen.trans hlen'.symm) hfits le_rfl⟩
    · rw [if_neg hbuilds] at hlimited ⊢
      exact ⟨_, rfl, _, hs.checks hlimited hlen⟩
  | probe now encodedSize challengeFits =>
    obtain ⟨path, hpath, hlimited, hlen⟩ :=
      hs.limited.updateConnection now encodedSize challengeFits
    have hfits : encodedSize ≤ limiter.credit := by
      have h : encodedSize ≤ s.path.pathValidationLimiter.elim 0 (·.credit) := hcovered
      rwa [hs.limited.pathValidationLimiter] at h
    rw [LimitedPath.step, hpath, except_ok_bind, hs.limited.pathValidationLimiter]
    dsimp only [Option.elim]
    rw [decide_eq_false (not_lt.mpr hfits), Bool.or_false]
    exact ⟨_, rfl, _, hs.takes s.sent hlimited hlen hfits (by omega)⟩
  | lossAlarm frames =>
    have hview := s.path.lost_view frames
    simp only [ServerPath.view, Prod.mk.injEq] at hview
    have hvalidating : (s.path.lost frames).Validating := by
      rw [hview.2.2.2.1]
      exact hs.limited.validating
    exact ⟨_, rfl, limiter, ⟨⟨hvalidating, hs.limited.pathValidationLimiter,
      hs.limited.writableBytesLimit⟩, hs.len, hs.maxCredit, hs.credit, hs.lastChecked, hs.refills,
      hs.wrapped⟩⟩
  | rttSample rttSample ackDelay =>
    refine ⟨_, rfl, limiter, ⟨⟨hs.limited.validating, hs.limited.pathValidationLimiter,
      hs.limited.writableBytesLimit⟩, hs.len, hs.maxCredit, hs.credit, hs.lastChecked, hs.refills,
      hs.wrapped⟩⟩

/-- A packet that the credit does not cover takes it below zero. -/
theorem step_wrapped {event : LimitedEvent} {t : LimitedPath κ} (hcovered : ¬ s.Covered event)
    (h : s.step event = .ok t) : t.wrapped = true := by
  cases event with
  | write now getWritableBytes encodedSize challengeFits =>
    obtain ⟨hbuilds, hshort⟩ := Classical.not_imp.mp hcovered
    rw [step, except_bind_eq_ok] at h
    obtain ⟨path, -, h⟩ := h
    rw [if_pos hbuilds] at h
    cases h
    rw [decide_eq_true (not_le.mp hshort), Bool.or_true]
  | probe now encodedSize challengeFits =>
    have hshort : s.path.pathValidationLimiter.elim 0 (·.credit) < encodedSize :=
      not_le.mp hcovered
    rw [step, except_bind_eq_ok] at h
    obtain ⟨path, -, h⟩ := h
    cases h
    dsimp only
    rw [decide_eq_true hshort, Bool.or_true]
  | check now getWritableBytes => exact absurd trivial hcovered
  | lossAlarm frames => exact absurd trivial hcovered
  | rttSample rttSample ackDelay => exact absurd trivial hcovered

/-- A path on which validation has just begun. -/
def start (path : ServerPath κ) : LimitedPath κ := ⟨path, [], 0, false⟩

theorem start_inv {path : ServerPath κ} (hlen : 0 < path.udpSendPacketLen)
    (hpath : path.Limited (.new path.udpSendPacketLen)) :
    (start path).Inv (.new path.udpSendPacketLen) where
  limited := hpath
  len := hlen
  maxCredit := rfl
  credit := Nat.le_refl _
  lastChecked := rfl
  refills := List.IsChain.nil
  wrapped := rfl

end LimitedPath

/-- From the beginning of a validation on, the path stays within its rate in every state
exactly when no packet is larger than the credit that is left when it is sent. -/
theorem limitedPath_withinRate_iff (path : ServerPath κ) (hlen : 0 < path.udpSendPacketLen)
    (hpath : path.Limited (.new path.udpSendPacketLen)) (events : List LimitedEvent) :
    (∀ before, before <+: events →
      ∃ s, before.foldlM LimitedPath.step (.start path) = .ok s ∧ s.WithinRate) ↔
    Meets LimitedPath.step LimitedPath.Covered (.start path) events := by
  refine @always_iff_meets _ _ _ LimitedPath.step LimitedPath.Covered
    (fun s => ∃ limiter, s.Inv limiter) LimitedPath.WithinRate ?_ ?_ ?_ _ _
    ⟨_, LimitedPath.start_inv hlen hpath⟩
  · rintro s event ⟨limiter, hs⟩ hcovered
    exact hs.step event hcovered
  · intro s event t _ hcovered ht hrate
    have hwrapped := LimitedPath.step_wrapped hcovered ht
    rw [hrate.wrapped] at hwrapped
    cases hwrapped
  · rintro s ⟨limiter, hs⟩
    exact hs.withinRate

/-- A path with packets of 1200 bytes, right after a migration. -/
def migratedPath : ServerPath Unit :=
  ServerPath.migrated { ServerPath.start ⟨false, 6, 5, false, ()⟩ ⟨.v4 (.ofOctets 192 0 2 1), 443⟩ 1200
      ⟨0, kDefaultMinRtt, 0, 0, 0, 3⟩ (some ()) with
    oneRttReadCipher := true
    isClientAddrVerified := true } ⟨.v4 (.ofOctets 198 51 100 1), 443⟩ 7

theorem migratedPath_limited : migratedPath.Limited (.new 1200) := by
  refine ⟨?_, ?_, ?_⟩ <;> decide

theorem limitedPath_fullPackets : ∃ s,
    [.write 0 none 1200 true, .check 10 none, .write 20 none 1200 false].foldlM
      LimitedPath.step (.start migratedPath) = .ok s ∧ s.WithinRate :=
  (limitedPath_withinRate_iff migratedPath (by decide) migratedPath_limited _).mpr
    (by decide +kernel) _ (List.prefix_refl _)

/-- A short packet leaves less credit than the next one takes. From then on the limiter holds
nothing back. -/
theorem limitedPath_withinRate_fails : ∃ s,
    [.write 0 (some 12000) 1200 true, .write 0 (some 12000) 600 false,
      .write 0 (some 12000) 1200 false, .write 0 (some 12000) 1200 false].foldlM
      LimitedPath.step (.start migratedPath) = .ok s ∧
    s.wrapped = true ∧ kMinCwndInMss * 1200 + 1200 < s.sent ∧ ¬ s.WithinRate := by
  have hrun : ∃ s,
      [.write 0 (some 12000) 1200 true, .write 0 (some 12000) 600 false,
        .write 0 (some 12000) 1200 false, .write 0 (some 12000) 1200 false].foldlM
        LimitedPath.step (.start migratedPath) = .ok s ∧
      (s.wrapped = true ∧ kMinCwndInMss * 1200 + 1200 < s.sent) := by
    decide +kernel
  obtain ⟨s, hs, hwrapped, hsent⟩ := hrun
  refine ⟨s, hs, hwrapped, hsent, fun hrate => ?_⟩
  rw [hrate.wrapped] at hwrapped
  cases hwrapped

end MasqueQuic
