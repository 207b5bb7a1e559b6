/-
QUIC integers, written and read again.

There are three ways to the width of an integer: the shortest width that holds the value, a width
that the caller asks for, and the first byte of an encoding. They agree, and what is written on any
of the widths is read back, however the chain is cut into elements. A call that finds too few bytes,
or may not read that many, leaves the cursor in front of the bytes where it was.
-/

import MasqueQuic.Quic.ChainCursor

namespace MasqueQuic

/-! ### Widths -/

def decodeQuicIntegerLength (firstByte : UInt8) : Nat := 1 <<< ((firstByte.toNat >>> 6) &&& 0x03)

/-- `CHECK(value <= …)`, or the error that the call returns. -/
inductive OutputSizeFault where
  | check
  | internalError
  deriving DecidableEq

/-- `encodeQuicInteger(value, bufop, outputSize)`. -/
def encodeQuicIntegerSized (value : Nat) (outputSize : Int) : Except OutputSizeFault Bytes :=
  if outputSize = 1 then
    if value ≤ kOneByteLimit then .ok (beBytes 1 (value % 2 ^ 8)) else .error .check
  else if outputSize = 2 then
    if value ≤ kTwoByteLimit then .ok (beBytes 2 ((value % 2 ^ 16) ||| 0x4000)) else .error .check
  else if outputSize = 4 then
    if value ≤ kFourByteLimit then .ok (beBytes 4 ((value % 2 ^ 32) ||| 0x80000000))
    else .error .check
  else if outputSize = 8 then
    if value ≤ kEightByteLimit then .ok (beBytes 8 (value ||| 0xC000000000000000)) else .error .check
  else .error .internalError

theorem kOneByteLimit_eq : kOneByteLimit = 2 ^ (8 * 2 ^ 0 - 2) - 1 := rfl

theorem kTwoByteLimit_eq : kTwoByteLimit = 2 ^ (8 * 2 ^ 1 - 2) - 1 := rfl

theorem kFourByteLimit_eq : kFourByteLimit = 2 ^ (8 * 2 ^ 2 - 2) - 1 := rfl

theorem kEightByteLimit_eq : kEightByteLimit = 2 ^ (8 * 2 ^ 3 - 2) - 1 := rfl

/-- The value bits and the length bits of a word do not meet. -/
theorem lengthBits_or {k v : Nat} (hv : v < 2 ^ (8 * 2 ^ k - 2)) :
    v ||| 2 ^ (8 * 2 ^ k - 2) * k = 2 ^ (8 * 2 ^ k - 2) * k + v := by
  rw [Nat.or_comm, ← Nat.two_pow_add_eq_or_of_lt hv]

/-- A value that fits is written on the width that was asked for. -/
theorem encodeQuicIntegerSized_of_lt {k v : Nat} (hk : k < 4) (hv : v < 2 ^ (8 * 2 ^ k - 2)) :
    ∃ e, encodeQuicIntegerSized v (2 ^ k : Nat) = .ok e ∧ e.length = 2 ^ k ∧ Varint v e := by
  refine ⟨beBytes (2 ^ k) (2 ^ (8 * 2 ^ k - 2) * k + v), ?_, length_beBytes _ _, varint_beBytes hk hv⟩
  unfold encodeQuicIntegerSized
  obtain rfl | rfl | rfl | rfl : k = 0 ∨ k = 1 ∨ k = 2 ∨ k = 3 := by omega
  · have hle : v ≤ kOneByteLimit := by
      rw [kOneByteLimit_eq]
      omega
    have hmod : v % 2 ^ 8 = v := Nat.mod_eq_of_lt (by omega)
    rw [hmod]
    simp [hle]
  · have hle : v ≤ kTwoByteLimit := by
      rw [kTwoByteLimit_eq]
      omega
    have hmod : v % 2 ^ 16 = v := Nat.mod_eq_of_lt (by omega)
    have hbits : v ||| 0x4000 = 2 ^ (8 * 2 ^ 1 - 2) * 1 + v := lengthBits_or hv
    rw [hmod, hbits]
    simp [hle]
  · have hle : v ≤ kFourByteLimit := by
      rw [kFourByteLimit_eq]
      omega
    have hmod : v % 2 ^ 32 = v := Nat.mod_eq_of_lt (by omega)
    have hbits : v ||| 0x80000000 = 2 ^ (8 * 2 ^ 2 - 2) * 2 + v := lengthBits_or hv
    rw [hmod, hbits]
    simp [hle]
  · have hle : v ≤ kEightByteLimit := by
      rw [kEightByteLimit_eq]
      omega
    have hbits : v ||| 0xC000000000000000 = 2 ^ (8 * 2 ^ 3 - 2) * 3 + v := lengthBits_or hv
    rw [hbits]
    simp [hle]

/-- Without a width the shortest is taken, which is the one that is announced for the value. -/
theorem encodeQuicInteger_size {v : Nat} {e : Bytes} (h : encodeQuicInteger v = some e) :
    getQuicIntegerSize v = some e.length := by
  unfold encodeQuicInteger at h
  unfold getQuicIntegerSize
  split at h
  · next hone =>
      cases h
      rw [if_pos hone, length_beBytes]
  · next hone =>
      rw [if_neg hone]
      split at h
      · next htwo =>
          cases h
          rw [if_pos htwo, length_beBytes]
      · next htwo =>
          rw [if_neg htwo]
          split at h
          · next hfour =>
              cases h
              rw [if_pos hfour, length_beBytes]
          · next hfour =>
              rw [if_neg hfour]
              split at h
              · next height =>
                  cases h
                  rw [if_pos height, length_beBytes]
              · cases h

theorem encodeQuicInteger_eq_none_iff {v : Nat} : encodeQuicInteger v = none ↔ 2 ^ 62 ≤ v := by
  constructor
  · intro hnone
    by_contra hlt
    obtain ⟨e, he⟩ := encodeQuicInteger_of_lt (Nat.lt_of_not_le hlt)
    rw [hnone] at he
    cases he
  · intro hle
    unfold encodeQuicInteger
    rw [if_neg, if_neg, if_neg, if_neg]
    · rw [kEightByteLimit_eq]
      omega
    · rw [kFourByteLimit_eq]
      omega
    · rw [kTwoByteLimit_eq]
      omega
    · rw [kOneByteLimit_eq]
      omega

/-! ### Reading -/

theorem decodeQuicIntegerLength_eq (b : UInt8) : decodeQuicIntegerLength b = 2 ^ (b.toNat / 64) := by
  rw [decodeQuicIntegerLength, varintType_eq, Nat.one_shiftLeft]

/-- Nothing is read exactly where the announced width is not allowed or not there. -/
theorem decodeQuicInteger_cons_eq_none_iff {b : UInt8} {s : Bytes} {atMost : Nat} :
    decodeQuicInteger (b :: s) atMost = none ↔
      atMost < decodeQuicIntegerLength b ∨ (b :: s).length < decodeQuicIntegerLength b := by
  have hpos : 0 < 2 ^ (b.toNat / 64) := Nat.pow_pos (by decide)
  rw [decodeQuicIntegerLength_eq]
  unfold decodeQuicInteger
  simp only [varintType_eq, Nat.one_shiftLeft]
  split
  · next hmost => simp [hmost]
  · next hmost =>
      split
      · next hzero =>
          simp only [hzero, pow_zero, List.length_cons, reduceCtorEq, false_iff]
          omega
      · split
        · next hshort => simp only [true_iff]; omega
        · next hlong => simp only [reduceCtorEq, false_iff]; omega

/-- A smaller bound only refuses. -/
theorem decodeQuicInteger_of_le {s : Bytes} {v n atMost : Nat}
    (h : decodeQuicInteger s sizeofUint64 = some (v, n)) (hle : n ≤ atMost) :
    decodeQuicInteger s atMost = some (v, n) := by
  cases s with
  | nil => simp [decodeQuicInteger] at h
  | cons b s =>
    unfold decodeQuicInteger at h ⊢
    simp only [varintType_eq, Nat.one_shiftLeft] at h ⊢
    rw [if_neg (by decide)] at h
    split at h
    · next hzero =>
        cases h
        rw [if_neg (Nat.ne_of_gt hle), if_pos hzero]
    · next hzero =>
        split at h
        · cases h
        · next hlong =>
            cases h
            have hpos : 0 < 2 ^ (b.toNat / 64) := Nat.pow_pos (by decide)
            rw [if_neg (by omega), if_neg hzero, if_neg (by omega)]

namespace ChainCursor

/-- `quic::decodeQuicInteger`, and where it leaves the cursor: after a failure it may stand on the
next element that is not empty. -/
def integer (c : ChainCursor) (atMost : Nat) : Option (Nat × Nat) × ChainCursor :=
  if atMost = 0 ∨ c.canAdvance 1 = false then (none, c)
  else match c.decodeQuicInteger atMost with
  | some (result, c') => (some result, c')
  | none => (none, c.peekBytes)

theorem integer_spec (c : ChainCursor) (atMost : Nat) :
    ((c.integer atMost).1 = none ∧ MasqueQuic.decodeQuicInteger c.bytes atMost = none ∧
        (c.integer atMost).2.bytes = c.bytes) ∨
      ∃ value width c', c.integer atMost = (some (value, width), c') ∧
        MasqueQuic.decodeQuicInteger c.bytes atMost = some (value, width) ∧
        c'.bytes = c.bytes.drop width := by
  unfold integer
  rcases c.decodeQuicInteger_eq atMost with ⟨hchain, hbytes⟩ | ⟨value, width, c', hchain, hbytes, hc'⟩
  · refine .inl ⟨?_, hbytes, ?_⟩
    · rw [hchain]
      split <;> rfl
    · rw [hchain]
      split
      · rfl
      · exact bytes_peekBytes c
  · refine .inr ⟨value, width, c', ?_, hbytes, hc'⟩
    rw [hchain, if_neg]
    intro hfails
    unfold ChainCursor.decodeQuicInteger at hchain
    rw [if_pos hfails] at hchain
    cases hchain

/-- An encoding is read back, whatever follows it. -/
theorem integer_of_varint {v atMost : Nat} {e t : Bytes} (h : Varint v e) (hle : e.length ≤ atMost)
    {c : ChainCursor} (hc : c.bytes = e ++ t) :
    ∃ c', c.integer atMost = (some (v, e.length), c') ∧ c'.bytes = t := by
  have hread : MasqueQuic.decodeQuicInteger c.bytes atMost = some (v, e.length) := by
    rw [hc]
    exact decodeQuicInteger_of_le (decodeQuicInteger_append h t) hle
  rcases c.integer_spec atMost with ⟨-, hnone, -⟩ | ⟨value, width, c', hchain, hsome, hc'⟩
  · rw [hread] at hnone
    cases hnone
  · rw [hread] at hsome
    cases hsome
    refine ⟨c', hchain, ?_⟩
    rw [hc', hc, List.drop_left]

theorem integer_eq_none_iff (c : ChainCursor) (atMost : Nat) :
    (c.integer atMost).1 = none ↔ ∀ b s, c.bytes = b :: s →
      atMost < decodeQuicIntegerLength b ∨ c.bytes.length < decodeQuicIntegerLength b := by
  have hiff : (c.integer atMost).1 = none ↔ MasqueQuic.decodeQuicInteger c.bytes atMost = none := by
    rcases c.integer_spec atMost with ⟨hchain, hnone, -⟩ | ⟨value, width, c', hchain, hsome, -⟩
    · simp [hchain, hnone]
    · simp [hchain, hsome]
  rw [hiff]
  cases hbytes : c.bytes with
  | nil => simp [MasqueQuic.decodeQuicInteger]
  | cons b s =>
    rw [decodeQuicInteger_cons_eq_none_iff]
    simp

end ChainCursor

/-- Integers below 2^62 are read back from whatever was written for them, followed by anything, and
the cursor then stands in front of what follows. Only larger integers are refused. A read fails
exactly where the announced width is more than allowed or more than there is, and reads nothing. -/
theorem quicInteger_codec :
    (∀ v < 2 ^ 62, ∃ e, encodeQuicInteger v = some e ∧ getQuicIntegerSize v = some e.length ∧
      ∀ (c : ChainCursor) t, c.bytes = e ++ t →
        ∃ c', c.integer sizeofUint64 = (some (v, e.length), c') ∧ c'.bytes = t) ∧
    (∀ v, ∀ size ∈ [1, 2, 4, 8], v < 2 ^ (8 * size - 2) →
      ∃ e, encodeQuicIntegerSized v (size : Nat) = .ok e ∧ e.length = size ∧
      ∀ (c : ChainCursor) t, c.bytes = e ++ t →
        ∃ c', c.integer sizeofUint64 = (some (v, e.length), c') ∧ c'.bytes = t) ∧
    (∀ v, encodeQuicInteger v = none ↔ 2 ^ 62 ≤ v) ∧
    (∀ (c : ChainCursor) atMost, (c.integer atMost).1 = none ↔ ∀ b s, c.bytes = b :: s →
      atMost < decodeQuicIntegerLength b ∨ c.bytes.length < decodeQuicIntegerLength b) ∧
    ∀ (c : ChainCursor) atMost, (c.integer atMost).1 = none →
      (c.integer atMost).2.bytes = c.bytes := by
  have hsizes : ∀ {v e}, Varint v e → e.length ≤ sizeofUint64 := by
    rintro v e ⟨k, hk, hlen, -⟩
    rw [hlen]
    exact two_pow_le_eight hk
  refine ⟨fun v hv => ?_, fun v size hsize hv => ?_, fun v => encodeQuicInteger_eq_none_iff,
    fun c atMost => c.integer_eq_none_iff atMost, fun c atMost hnone => ?_⟩
  · obtain ⟨e, he⟩ := encodeQuicInteger_of_lt hv
    have hvarint := encodeQuicInteger_varint he
    exact ⟨e, he, encodeQuicInteger_size he, fun c t hc =>
      ChainCursor.integer_of_varint hvarint (hsizes hvarint) hc⟩
  · obtain ⟨k, hk, rfl⟩ : ∃ k < 4, size = 2 ^ k := by
      simp only [List.mem_cons, List.not_mem_nil, or_false] at hsize
      rcases hsize with rfl | rfl | rfl | rfl
      · exact ⟨0, by decide, rfl⟩
      · exact ⟨1, by decide, rfl⟩
      · exact ⟨2, by decide, rfl⟩
      · exact ⟨3, by decide, rfl⟩
    obtain ⟨e, he, hlen, hvarint⟩ := encodeQuicIntegerSized_of_lt hk hv
    exact ⟨e, he, hlen, fun c t hc => ChainCursor.integer_of_varint hvarint (hsizes hvarint) hc⟩
  · rcases c.integer_spec atMost with ⟨-, -, hsame⟩ | ⟨value, width, c', hchain, -⟩
    · exact hsame
    · rw [hchain] at hnone
      cases hnone

end MasqueQuic
