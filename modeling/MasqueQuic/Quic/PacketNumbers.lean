/-
Packet numbers, shortened and restored.

A sender leaves out the high bytes of a packet number, as many as the distance to the largest number
that was acknowledged allows. The receiver takes, among the numbers that end in the bytes it gets,
the one in the window around the number it expects. `PacketNumberWindow` says which numbers the
window holds; the sender's choice of the length puts its number there.
-/

import MasqueQuic.Quic.HeaderCodec
import MasqueQuic.Quic.PacketParsing

namespace MasqueQuic

/-! ### The window -/

/-- The number in the window of `win` numbers around `expected` that ends as `candidate` does. It is
`decodePacketNumber` without its machine words. -/
def restorePacketNumber (win expected candidate : Nat) : Nat :=
  if expected > win / 2 ∧ candidate ≤ expected - win / 2 ∧ candidate < 2 ^ 62 - win then
    candidate + win
  else if candidate > expected + win / 2 ∧ candidate ≥ win then candidate - win
  else candidate

/-- The number lies less than half a window in front of what is expected, or behind it. -/
def PacketNumberWindow (win expected packetNum : Nat) : Prop :=
  expected < packetNum + win / 2 ∧ packetNum + 1 < expected + win / 2

/-- Two numbers of a window do not end alike. -/
theorem restorePacketNumber_eq {win expected packetNum : Nat} (heven : win % 2 = 0)
    (hwin : PacketNumberWindow win expected packetNum) (hvarint : packetNum < 2 ^ 62) :
    restorePacketNumber win expected (win * (expected / win) + packetNum % win) = packetNum := by
  obtain ⟨hlow, hhigh⟩ := hwin
  have hpos : 0 < win := by omega
  have hexpected := Nat.div_add_mod expected win
  have hpacketNum := Nat.div_add_mod packetNum win
  have hmod := Nat.mod_lt expected hpos
  have hmod' := Nat.mod_lt packetNum hpos
  generalize expected % win = r at *
  generalize packetNum % win = r' at *
  -- The two numbers lie in the same block of `win` numbers, or in neighbouring ones.
  rcases Nat.lt_trichotomy (packetNum / win) (expected / win) with hlt | heq | hgt
  · have hnext : packetNum / win + 1 = expected / win := by
      by_contra hne
      have hfar : win * (packetNum / win + 2) ≤ win * (expected / win) :=
        Nat.mul_le_mul_left win (by omega)
      rw [Nat.mul_add] at hfar
      omega
    rw [← hnext, Nat.mul_add] at hexpected ⊢
    generalize win * (packetNum / win) = block at *
    unfold restorePacketNumber
    rw [if_neg (by omega), if_pos (by omega)]
    omega
  · rw [← heq] at hexpected ⊢
    generalize win * (packetNum / win) = block at *
    unfold restorePacketNumber
    rw [if_neg (by omega), if_neg (by omega)]
    omega
  · have hnext : expected / win + 1 = packetNum / win := by
      by_contra hne
      have hfar : win * (expected / win + 2) ≤ win * (packetNum / win) :=
        Nat.mul_le_mul_left win (by omega)
      rw [Nat.mul_add] at hfar
      omega
    rw [← hnext, Nat.mul_add] at hpacketNum
    generalize win * (expected / win) = block at *
    unfold restorePacketNumber
    rw [if_pos (by omega)]
    omega

/-! ### Words -/

/-- The high bits of one word and the low bits of another. -/
theorem toNat_highBits_or {k : Nat} {low mask : UInt64} (word : UInt64) (hmask : mask.toNat = 2 ^ k - 1)
    (hlow : low.toNat < 2 ^ k) :
    ((word &&& ~~~mask) ||| low).toNat = 2 ^ k * (word.toNat / 2 ^ k) + low.toNat := by
  rw [Nat.two_pow_add_eq_or_of_lt hlow]
  apply Nat.eq_of_testBit_eq
  intro i
  have hnot : (~~~mask).toNat = 2 ^ 64 - (2 ^ k - 1 + 1) := by
    rw [UInt64.toNat_not, hmask]
    change 2 ^ 64 - 1 - (2 ^ k - 1) = _
    omega
  rw [UInt64.toNat_or, UInt64.toNat_and, hnot, Nat.testBit_or, Nat.testBit_or, Nat.testBit_and,
    Nat.testBit_two_pow_sub_succ (by rw [← hmask]; exact mask.toNat_lt), Nat.testBit_two_pow_sub_one,
    Nat.testBit_two_pow_mul, Nat.testBit_div_two_pow]
  by_cases hi : i < k
  · simp [hi]
  · have hword : 64 ≤ i → word.toNat.testBit i = false := fun hle =>
      Nat.testBit_lt_two_pow (word.toNat_lt.trans_le (Nat.pow_le_pow_right (by decide) hle))
    by_cases hbits : i < 64
    · simp [hi, hbits]
      rw [Nat.sub_add_cancel (Nat.le_of_not_lt hi)]
      simp [Nat.le_of_not_lt hi]
    · simp [hi, hbits, hword (Nat.le_of_not_lt hbits), Nat.sub_add_cancel (Nat.le_of_not_lt hi)]

theorem toNat_decodePacketNumber {n : Nat} (hlow : 1 ≤ n) (hhigh : n ≤ kMaxPacketNumEncodingSize)
    {encoded expected : UInt64} (hencoded : encoded.toNat < 2 ^ (8 * n))
    (hexpected : expected.toNat < 2 ^ 63) :
    (decodePacketNumber encoded n expected).toNat = restorePacketNumber (2 ^ (8 * n)) expected.toNat
      (2 ^ (8 * n) * (expected.toNat / 2 ^ (8 * n)) + encoded.toNat) := by
  unfold kMaxPacketNumEncodingSize at hhigh
  have hwin : ((1 : UInt64) <<< UInt64.ofNat (8 * n)).toNat = 2 ^ (8 * n) ∧
      ((1 : UInt64) <<< UInt64.ofNat (8 * n) >>> 1).toNat = 2 ^ (8 * n) / 2 ∧
      ((1 : UInt64) <<< UInt64.ofNat (8 * n) - 1).toNat = 2 ^ (8 * n) - 1 ∧
      ((1 : UInt64) <<< 62 - (1 : UInt64) <<< UInt64.ofNat (8 * n)).toNat = 2 ^ 62 - 2 ^ (8 * n) ∧
      2 ^ (8 * n) ≤ 2 ^ 32 ∧ 256 ≤ 2 ^ (8 * n) := by
    obtain rfl | rfl | rfl | rfl : n = 1 ∨ n = 2 ∨ n = 3 ∨ n = 4 := by omega
    all_goals decide
  obtain ⟨hwin, hhalf, hmask, hmax, hle, hge⟩ := hwin
  have hcandidate := toNat_highBits_or expected hmask hencoded
  have hbound : 2 ^ (8 * n) * (expected.toNat / 2 ^ (8 * n)) ≤ expected.toNat :=
    Nat.mul_div_le _ _
  unfold decodePacketNumber restorePacketNumber
  dsimp only
  generalize (expected &&& ~~~((1 : UInt64) <<< UInt64.ofNat (8 * n) - 1)) ||| encoded =
    candidate at *
  generalize 2 ^ (8 * n) * (expected.toNat / 2 ^ (8 * n)) = block at *
  generalize (1 : UInt64) <<< UInt64.ofNat (8 * n) = win at *
  generalize 2 ^ (8 * n) = width at *
  simp only [gt_iff_lt, ge_iff_le, UInt64.lt_iff_toNat_lt, UInt64.le_iff_toNat_le, hhalf, hmax]
  rw [← hcandidate]
  have hsum : (expected + win >>> 1).toNat = expected.toNat + width / 2 := by
    rw [UInt64.toNat_add, hhalf]
    omega
  by_cases hfirst : width / 2 < expected.toNat
  · have hdiff : (expected - win >>> 1).toNat = expected.toNat - width / 2 := by
      rw [UInt64.toNat_sub_of_le _ _ (by rw [UInt64.le_iff_toNat_le, hhalf]; omega), hhalf]
    rw [hdiff, hsum, hwin]
    split
    · rw [UInt64.toNat_add, hwin]
      omega
    · split
      · next hback =>
          rw [UInt64.toNat_sub_of_le _ _ (by rw [UInt64.le_iff_toNat_le, hwin]; exact hback.2), hwin]
      · rfl
  · simp only [hfirst, false_and, if_false]
    rw [hsum, hwin]
    split
    · next hback =>
        rw [UInt64.toNat_sub_of_le _ _ (by rw [UInt64.le_iff_toNat_le, hwin]; exact hback.2), hwin]
    · rfl

/-! ### The sender -/

/-- The bytes that hold twice the distance. -/
theorem findLastSet_le_iff {x : UInt64} {k : Nat} : findLastSet x ≤ k ↔ x.toNat < 2 ^ k := by
  unfold findLastSet
  split
  · next hzero =>
      subst hzero
      simp
  · next hne =>
      have hnat : x.toNat ≠ 0 := fun h => hne (UInt64.toNat_inj.mp h)
      rw [Nat.succ_le_iff, Nat.log2_lt hnat]

theorem toNat_twiceDistance {packetNum largestAcked : UInt64} (hvarint : packetNum.toNat < 2 ^ 62)
    (hlt : largestAcked < packetNum) : ((packetNum - largestAcked) * 2).toNat =
      2 * (packetNum.toNat - largestAcked.toNat) := by
  have hle : largestAcked ≤ packetNum := UInt64.le_of_lt hlt
  rw [UInt64.toNat_mul, UInt64.toNat_sub_of_le _ _ hle]
  change (packetNum.toNat - largestAcked.toNat) * 2 % 2 ^ 64 = _
  omega

theorem encodePacketNumber_spec {packetNum largestAcked : UInt64}
    (hvarint : packetNum.toNat < 2 ^ 62) (hlt : largestAcked < packetNum)
    {encoding : PacketNumEncodingResult}
    (h : encodePacketNumber packetNum largestAcked = .ok encoding) :
    encoding.result = packetNum.toNat % 2 ^ (8 * encoding.length) ∧
      2 * (packetNum.toNat - largestAcked.toNat) < 2 ^ (8 * encoding.length) := by
  have htwice := toNat_twiceDistance hvarint hlt
  have hbits : findLastSet ((packetNum - largestAcked) * 2) ≤
      8 * (if findLastSet ((packetNum - largestAcked) * 2) = 0 then 1
        else (findLastSet ((packetNum - largestAcked) * 2) + 7) >>> 3) := by
    rw [Nat.shiftRight_eq_div_pow]
    split
    · omega
    · omega
  unfold encodePacketNumber at h
  dsimp only at h
  generalize (if findLastSet ((packetNum - largestAcked) * 2) = 0 then 1
    else (findLastSet ((packetNum - largestAcked) * 2) + 7) >>> 3) = n at h hbits
  split at h
  · cases h
  · cases h
    refine ⟨Nat.and_two_pow_sub_one_eq_mod _ _, ?_⟩
    rw [← htwice]
    exact findLastSet_le_iff.mp hbits

theorem encodePacketNumber_error_iff {packetNum largestAcked : UInt64}
    (hvarint : packetNum.toNat < 2 ^ 62) (hlt : largestAcked < packetNum) :
    (∃ e, encodePacketNumber packetNum largestAcked = .error e) ↔
      2 ^ (8 * 4) ≤ 2 * (packetNum.toNat - largestAcked.toNat) := by
  rw [← toNat_twiceDistance hvarint hlt, ← Nat.not_lt, ← findLastSet_le_iff]
  have hbytes : (if findLastSet ((packetNum - largestAcked) * 2) = 0 then 1
      else (findLastSet ((packetNum - largestAcked) * 2) + 7) >>> 3) > 4 ↔
        ¬ findLastSet ((packetNum - largestAcked) * 2) ≤ 8 * 4 := by
    rw [Nat.shiftRight_eq_div_pow]
    split
    · omega
    · omega
  rw [← hbytes]
  unfold encodePacketNumber
  dsimp only
  generalize (if findLastSet ((packetNum - largestAcked) * 2) = 0 then 1
    else (findLastSet ((packetNum - largestAcked) * 2) + 7) >>> 3) = n
  by_cases hlong : n > 4
  · simp [hlong]
  · simp [hlong]

/-! ### Both ends -/

/-- What the sender leaves of a packet number the receiver completes to that number, if no number
half a window further was received before; and the sender refuses a number only if twice its
distance to the largest acknowledged one takes more than four bytes. -/
theorem packetNumber_restored (packetNum largestAcked expected : UInt64)
    (hvarint : packetNum.toNat < 2 ^ 62) (hacked : largestAcked < packetNum)
    (hreceived : largestAcked < expected) :
    (∀ encoding, encodePacketNumber packetNum largestAcked = .ok encoding →
      (packetNum < expected → expected.toNat - packetNum.toNat < 2 ^ (8 * encoding.length - 1)) →
      decodePacketNumber (UInt64.ofNat encoding.result) encoding.length expected = packetNum) ∧
    ((∃ e, encodePacketNumber packetNum largestAcked = .error e) ↔
      2 ^ (8 * 4) ≤ 2 * (packetNum.toNat - largestAcked.toNat)) := by
  refine ⟨fun encoding hencoding hreorder => ?_, encodePacketNumber_error_iff hvarint hacked⟩
  obtain ⟨hlow, hhigh⟩ := length_packetNumber hencoding
  obtain ⟨hresult, hdistance⟩ := encodePacketNumber_spec hvarint hacked hencoding
  have hle : 2 ^ (8 * encoding.length) ≤ 2 ^ 32 :=
    Nat.pow_le_pow_right (by decide) (by unfold kMaxPacketNumEncodingSize at hhigh; omega)
  have hpow : 2 ^ (8 * encoding.length) = 2 * 2 ^ (8 * encoding.length - 1) := by
    rw [← Nat.pow_succ']
    congr 1
    omega
  rw [UInt64.lt_iff_toNat_lt] at hacked hreceived hreorder
  have hpos : 0 < 2 ^ (8 * encoding.length) := Nat.pow_pos (by decide)
  have hmod := Nat.mod_lt packetNum.toNat hpos
  have hencoded :
      (UInt64.ofNat encoding.result).toNat = packetNum.toNat % 2 ^ (8 * encoding.length) := by
    rw [UInt64.toNat_ofNat', hresult, Nat.mod_eq_of_lt (by omega)]
  have hwindow : PacketNumberWindow (2 ^ (8 * encoding.length)) expected.toNat packetNum.toNat := by
    constructor
    · by_cases hbefore : packetNum.toNat < expected.toNat
      · have := hreorder hbefore
        omega
      · omega
    · omega
  apply UInt64.toNat_inj.mp
  rw [toNat_decodePacketNumber hlow hhigh (by rw [hencoded]; exact hmod) (by
    by_cases hbefore : packetNum.toNat < expected.toNat
    · have := hreorder hbefore
      omega
    · omega), hencoded]
  exact restorePacketNumber_eq (by omega) hwindow hvarint

/-- The number 300 after 100 takes two bytes, and is restored where 301 is expected. -/
theorem packetNumber_restored_300 :
    decodePacketNumber (UInt64.ofNat 300) 2 301 = 300 :=
  (packetNumber_restored 300 100 301 (by decide) (by decide) (by decide)).1 ⟨300, 2⟩ rfl (by decide)

end MasqueQuic
