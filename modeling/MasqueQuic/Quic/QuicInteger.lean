/-
QUIC variable-length integers (`quic/codec/QuicInteger.h`, `QuicInteger.cpp`).

`Varint` is the format: the two high bits of the first byte give the width
(1, 2, 4 or 8 bytes), the other bits are the value. `decodeQuicInteger_iff` says
that the decoder recognises exactly that format, for every width and not only
the shortest one, and `encodeQuicInteger_varint` that the encoder writes it.
-/

import MasqueQuic.Folly.IOBuf

namespace MasqueQuic

def kOneByteLimit : Nat := 0x3F
def kTwoByteLimit : Nat := 0x3FFF
def kFourByteLimit : Nat := 0x3FFFFFFF
def kEightByteLimit : Nat := 0x3FFFFFFFFFFFFFFF

/-- The width of the shortest encoding, or an error for a value of 2^62 and more. -/
def getQuicIntegerSize (value : Nat) : Option Nat :=
  if value ≤ kOneByteLimit then some 1
  else if value ≤ kTwoByteLimit then some 2
  else if value ≤ kFourByteLimit then some 4
  else if value ≤ kEightByteLimit then some 8
  else none

/-- The bytes handed to the buffer operation, or nothing for a value that is too
large. Each branch casts to its width and sets the length bits. -/
def encodeQuicInteger (value : Nat) : Option Bytes :=
  if value ≤ kOneByteLimit then some (beBytes 1 (value % 2 ^ 8))
  else if value ≤ kTwoByteLimit then some (beBytes 2 ((value % 2 ^ 16) ||| 0x4000))
  else if value ≤ kFourByteLimit then some (beBytes 4 ((value % 2 ^ 32) ||| 0x80000000))
  else if value ≤ kEightByteLimit then some (beBytes 8 (value ||| 0xC000000000000000))
  else none

/-- All bits but the two highest of a 64-bit word. -/
def msbMask : Nat := (2 ^ 64 - 1) ^^^ (0b11 <<< 62)

/-- Decode an integer at the front of `cursor`: the value and the number of bytes
it takes, or nothing if there are not enough bytes. -/
def decodeQuicInteger (cursor : Bytes) (atMost : Nat) : Option (Nat × Nat) :=
  if atMost = 0 then none
  else match cursor with
  | [] => none
  | firstByte :: _ =>
      let varintType := (firstByte.toNat >>> 6) &&& 0x03
      let bytesExpected := 1 <<< varintType
      if varintType = 0 then some (firstByte.toNat &&& 0x3f, 1)
      else if cursor.length < bytesExpected ∨ atMost < bytesExpected then none
      else
        -- the bytes are pulled to the front of a zeroed 64-bit word
        let word := beNat (cursor.take bytesExpected ++ List.replicate (8 - bytesExpected) 0)
        some ((word &&& msbMask) >>> ((8 - bytesExpected) <<< 3), bytesExpected)

/-- `atMost` where the caller does not give it. -/
def sizeofUint64 : Nat := 8

namespace Cursor

/-- `quic::decodeQuicInteger(cursor)`: the cursor moves only on success. -/
def decodeQuicInteger : Cursor (Option (Nat × Nat)) := fun s =>
  match MasqueQuic.decodeQuicInteger s sizeofUint64 with
  | none => .ok (none, s)
  | some (value, width) => .ok (some (value, width), s.drop width)

end Cursor

/-! ### The format -/

/-- `e` is an encoding of `v` on `2 ^ k` bytes for some `k < 4`. -/
def Varint : Format UInt8 Nat := fun v e =>
  ∃ k < 4, e.length = 2 ^ k ∧ v < 2 ^ (8 * 2 ^ k - 2) ∧ beNat e = k * 2 ^ (8 * 2 ^ k - 2) + v

/-! ### Decoding -/

theorem varintType_eq (b : UInt8) : (b.toNat >>> 6) &&& 0x03 = b.toNat / 64 := by
  have hb := b.toNat_lt
  have hmask : (0x03 : Nat) = 2 ^ 2 - 1 := rfl
  rw [hmask, Nat.and_two_pow_sub_one_eq_mod, Nat.shiftRight_eq_div_pow]
  omega

/-- The two high bits of a byte string are those of its first byte. -/
theorem beNat_div_top (b : UInt8) (r : Bytes) :
    beNat (b :: r) / 2 ^ (8 * (r.length + 1) - 2) = b.toNat / 64 := by
  have hpow : 2 ^ (8 * (r.length + 1) - 2) = 256 ^ r.length * 64 := by
    rw [show 8 * (r.length + 1) - 2 = 8 * r.length + 6 by omega, Nat.pow_add, Nat.pow_mul]
  have hpos : 0 < 256 ^ r.length := Nat.pow_pos (by decide)
  rw [hpow, ← Nat.div_div_eq_div_mul, beNat, Nat.add_comm, Nat.add_mul_div_right _ _ hpos,
    Nat.div_eq_of_lt (beNat_lt r), Nat.zero_add]

/-- Masking and shifting the zero-padded word keeps the value bits. -/
theorem decode_word (e : Bytes) {n : Nat} (hpos : 0 < n) (hn : n ≤ 8) :
    (beNat (e ++ List.replicate (8 - n) 0) &&& msbMask) >>> ((8 - n) <<< 3) =
      beNat e % 2 ^ (8 * n - 2) := by
  have hmask : msbMask = 2 ^ 62 - 1 := rfl
  have hshift : (8 - n) <<< 3 = 8 * (8 - n) := by rw [Nat.shiftLeft_eq, Nat.mul_comm]
  have hpow : 2 ^ 62 = 2 ^ (8 * n - 2) * 2 ^ (8 * (8 - n)) := by
    rw [← Nat.pow_add, show 8 * n - 2 + 8 * (8 - n) = 62 by omega]
  have h256 : 256 ^ (8 - n) = 2 ^ (8 * (8 - n)) := by rw [Nat.pow_mul]
  have hz : 0 < 2 ^ (8 * (8 - n)) := Nat.pow_pos (by decide)
  rw [hmask, Nat.and_two_pow_sub_one_eq_mod, beNat_append, beNat_replicate_zero,
    List.length_replicate, Nat.add_zero, h256, hpow, hshift, Nat.shiftRight_eq_div_pow,
    Nat.mul_mod_mul_right, Nat.mul_div_cancel _ hz]

theorem two_pow_le_eight {k : Nat} (hk : k < 4) : 2 ^ k ≤ 8 :=
  Nat.pow_le_pow_right (show 0 < 2 by decide) (show k ≤ 3 by omega)

/-- The decoder on a complete encoding, whatever follows it. -/
theorem decodeQuicInteger_append {v : Nat} {e : Bytes} (h : Varint v e) (t : Bytes) :
    decodeQuicInteger (e ++ t) sizeofUint64 = some (v, e.length) := by
  obtain ⟨k, hk, hlen, hv, hval⟩ := h
  cases e with
  | nil =>
    have := Nat.pow_pos (n := k) (show 0 < 2 by decide)
    rw [List.length_nil] at hlen
    omega
  | cons b r =>
    have hr : 2 ^ k = r.length + 1 := by rw [← hlen, List.length_cons]
    have htop : b.toNat / 64 = k := by
      rw [← beNat_div_top b r, ← hr, hval, Nat.add_comm,
        Nat.add_mul_div_right _ _ (Nat.pow_pos (by decide)), Nat.div_eq_of_lt hv, Nat.zero_add]
    have hmod : beNat (b :: r) % 2 ^ (8 * 2 ^ k - 2) = v := by
      rw [hval, Nat.add_comm, Nat.add_mul_mod_self_right, Nat.mod_eq_of_lt hv]
    have htake : (b :: r ++ t).take (2 ^ k) = b :: r := by
      rw [← hlen, List.take_left]
    have hlong : ¬ (b :: r ++ t).length < 2 ^ k := by
      rw [List.length_append, hlen]
      omega
    simp only [List.cons_append] at htake hlong
    simp only [decodeQuicInteger, sizeofUint64, List.cons_append, varintType_eq, htop,
      Nat.one_shiftLeft]
    by_cases hzero : k = 0
    · subst hzero
      have hr0 : r = [] := by
        apply List.length_eq_zero_iff.mp
        omega
      subst hr0
      have hb : b.toNat &&& 0x3f = b.toNat % 64 := Nat.and_two_pow_sub_one_eq_mod b.toNat 6
      simp only [beNat, List.length_nil, pow_zero, Nat.mul_one, Nat.add_zero, Nat.zero_mul,
        Nat.zero_add] at hval
      simp [hb]
      omega
    · have height := two_pow_le_eight hk
      rw [if_neg (by decide), if_neg hzero, if_neg (by omega), htake,
        decode_word _ (Nat.pow_pos (by decide)) height, hmod, hlen]

/-- The decoder succeeds only on a complete encoding. -/
theorem varint_of_decodeQuicInteger {s : Bytes} {v n : Nat}
    (h : decodeQuicInteger s sizeofUint64 = some (v, n)) :
    ∃ e t, Varint v e ∧ e.length = n ∧ s = e ++ t := by
  cases s with
  | nil => simp [decodeQuicInteger] at h
  | cons b r =>
    have hb := b.toNat_lt
    obtain ⟨k, hkdef⟩ : ∃ k, b.toNat / 64 = k := ⟨_, rfl⟩
    have hk : k < 4 := by omega
    simp only [decodeQuicInteger, sizeofUint64, varintType_eq, Nat.one_shiftLeft, hkdef] at h
    rw [if_neg (by decide)] at h
    split at h
    · rename_i hzero
      have hmask : b.toNat &&& 0x3f = b.toNat % 64 := Nat.and_two_pow_sub_one_eq_mod b.toNat 6
      cases h
      exact ⟨[b], r, ⟨0, by decide, rfl, by simp [hmask]; omega, by simp [beNat, hmask]; omega⟩,
        rfl, rfl⟩
    · split at h
      · cases h
      · rename_i hlong
        have hpos : 0 < 2 ^ k := Nat.pow_pos (by decide)
        have hlen : ((b :: r).take (2 ^ k)).length = 2 ^ k := by
          rw [List.length_take]
          omega
        rw [decode_word _ hpos (two_pow_le_eight hk)] at h
        cases h
        refine ⟨(b :: r).take (2 ^ k), (b :: r).drop (2 ^ k),
          ⟨k, hk, hlen, Nat.mod_lt _ (Nat.pow_pos (by decide)), ?_⟩, hlen,
          (List.take_append_drop _ _).symm⟩
        -- the part above the value bits is the width of the encoding
        obtain ⟨m, hm⟩ : ∃ m, 2 ^ k = m + 1 := ⟨_, (Nat.succ_pred_eq_of_pos hpos).symm⟩
        have htake : (b :: r).take (2 ^ k) = b :: r.take m := by rw [hm, List.take_succ_cons]
        have hrlen : (r.take m).length + 1 = 2 ^ k := by rw [← hlen, htake, List.length_cons]
        have htop := beNat_div_top b (r.take m)
        rw [hrlen, ← htake, hkdef] at htop
        have hsplit := Nat.div_add_mod (beNat ((b :: r).take (2 ^ k))) (2 ^ (8 * 2 ^ k - 2))
        rw [htop, Nat.mul_comm] at hsplit
        exact hsplit.symm

/-- The decoder recognises exactly the format. -/
theorem decodeQuicInteger_iff {s : Bytes} {v n : Nat} :
    decodeQuicInteger s sizeofUint64 = some (v, n) ↔
      ∃ e t, Varint v e ∧ e.length = n ∧ s = e ++ t := by
  refine ⟨varint_of_decodeQuicInteger, ?_⟩
  rintro ⟨e, t, hv, rfl, rfl⟩
  exact decodeQuicInteger_append hv t

/-- A varint followed by anything, seen from the cursor. -/
theorem Cursor.decodeQuicInteger_append {v : Nat} {e : Bytes} (h : Varint v e) (t : Bytes) :
    Cursor.decodeQuicInteger.run (e ++ t) = .ok (some (v, e.length), t) := by
  simp [Cursor.decodeQuicInteger, StateT.run, MasqueQuic.decodeQuicInteger_append h]

/-- Reading a varint that has to be there. -/
def Cursor.varint : Cursor Nat := fun s =>
  match MasqueQuic.decodeQuicInteger s sizeofUint64 with
  | none => .error .emptyOptional
  | some (value, width) => .ok (value, s.drop width)

theorem Reads.varint : Reads Cursor.varint Varint := by
  intro s v t
  simp only [Cursor.varint, StateT.run]
  constructor
  · intro h
    split at h
    · cases h
    · rename_i value width hdecode
      cases h
      obtain ⟨e, t, hv, rfl, rfl⟩ := varint_of_decodeQuicInteger hdecode
      exact ⟨e, hv, by rw [List.drop_left]⟩
  · rintro ⟨e, hv, rfl⟩
    simp [decodeQuicInteger_append hv]

/-- A byte string of one byte below 64 is always a complete integer, so a failed
decode on a non-empty cursor means a larger first byte. -/
theorem first_byte_of_decode_none {b : UInt8} {r : Bytes}
    (h : decodeQuicInteger (b :: r) sizeofUint64 = none) : 64 ≤ b.toNat := by
  by_contra hlt
  have hv : Varint b.toNat [b] := ⟨0, by decide, rfl, by simp; omega, by simp [beNat]⟩
  have := decodeQuicInteger_append hv r
  rw [List.singleton_append, h] at this
  cases this

/-! ### Encoding -/

/-- A value on `2 ^ k` bytes, with the width in its two high bits. -/
theorem varint_beBytes {k v : Nat} (hk : k < 4) (hv : v < 2 ^ (8 * 2 ^ k - 2)) :
    Varint v (beBytes (2 ^ k) (2 ^ (8 * 2 ^ k - 2) * k + v)) := by
  refine ⟨k, hk, length_beBytes _ _, hv, ?_⟩
  have hpos : 0 < 2 ^ k := Nat.pow_pos (by decide)
  have h256 : (256 : Nat) ^ 2 ^ k = 4 * 2 ^ (8 * 2 ^ k - 2) := by
    rw [show (256 : Nat) = 2 ^ 8 from rfl, ← Nat.pow_mul, show (4 : Nat) = 2 ^ 2 from rfl,
      ← Nat.pow_add, show 2 + (8 * 2 ^ k - 2) = 8 * 2 ^ k by omega]
  have hlt : 2 ^ (8 * 2 ^ k - 2) * k + v < 256 ^ 2 ^ k := by
    have hle : 2 ^ (8 * 2 ^ k - 2) * k ≤ 2 ^ (8 * 2 ^ k - 2) * 3 := Nat.mul_le_mul_left _ (by omega)
    omega
  rw [beNat_beBytes_of_lt hlt, Nat.mul_comm]

theorem encodeQuicInteger_varint {v : Nat} {e : Bytes} (h : encodeQuicInteger v = some e) :
    Varint v e := by
  unfold encodeQuicInteger at h
  split at h
  · rename_i h1
    have hv : v < 2 ^ (8 * 2 ^ 0 - 2) := by simp [kOneByteLimit] at h1 ⊢; omega
    cases h
    rw [Nat.mod_eq_of_lt (by simp at hv; omega)]
    simpa using varint_beBytes (by decide) hv
  split at h
  · rename_i h2
    have hv : v < 2 ^ (8 * 2 ^ 1 - 2) := by simp [kTwoByteLimit] at h2 ⊢; omega
    cases h
    rw [Nat.mod_eq_of_lt (by simp at hv; omega), Nat.or_comm,
      show (0x4000 : Nat) = 2 ^ (8 * 2 ^ 1 - 2) * 1 from rfl, ← Nat.two_pow_add_eq_or_of_lt hv]
    exact varint_beBytes (by decide) hv
  split at h
  · rename_i h4
    have hv : v < 2 ^ (8 * 2 ^ 2 - 2) := by simp [kFourByteLimit] at h4 ⊢; omega
    cases h
    rw [Nat.mod_eq_of_lt (by simp at hv; omega), Nat.or_comm,
      show (0x80000000 : Nat) = 2 ^ (8 * 2 ^ 2 - 2) * 2 from rfl,
      ← Nat.two_pow_add_eq_or_of_lt hv]
    exact varint_beBytes (by decide) hv
  split at h
  · rename_i h8
    have hv : v < 2 ^ (8 * 2 ^ 3 - 2) := by simp [kEightByteLimit] at h8 ⊢; omega
    cases h
    rw [Nat.or_comm, show (0xC000000000000000 : Nat) = 2 ^ (8 * 2 ^ 3 - 2) * 3 from rfl,
      ← Nat.two_pow_add_eq_or_of_lt hv]
    exact varint_beBytes (by decide) hv
  · cases h

/-- Every value below 2^62 is encoded. -/
theorem encodeQuicInteger_of_lt {v : Nat} (h : v < 2 ^ 62) : ∃ e, encodeQuicInteger v = some e := by
  unfold encodeQuicInteger
  split
  · exact ⟨_, rfl⟩
  split
  · exact ⟨_, rfl⟩
  split
  · exact ⟨_, rfl⟩
  · rw [if_pos (by simp only [kEightByteLimit]; omega)]
    exact ⟨_, rfl⟩

end MasqueQuic
