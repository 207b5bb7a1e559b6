/-
Big-endian byte strings.

`beBytes w v` is the `w`-byte big-endian rendering of `v` (the high part of a
value that does not fit is cut off, as a narrowing cast does) and `beNat` reads
a byte string back. The two are inverse on values below `256 ^ w`
(`beNat_beBytes`) and on every byte string (`beBytes_beNat`). Reversing a byte
string swaps the byte order.
-/

import Mathlib.Data.List.Basic
import Mathlib.Tactic.Ring

namespace MasqueQuic

abbrev Bytes := List UInt8

/-- The value of a byte string, most significant byte first. -/
def beNat : Bytes → Nat
  | [] => 0
  | b :: bs => b.toNat * 256 ^ bs.length + beNat bs

/-- The low `w` bytes of `v`, most significant byte first. -/
def beBytes : Nat → Nat → Bytes
  | 0, _ => []
  | w + 1, v => UInt8.ofNat (v / 256 ^ w) :: beBytes w v

@[simp] theorem length_beBytes (w v : Nat) : (beBytes w v).length = w := by
  induction w with
  | zero => rfl
  | succ w ih => simp [beBytes, ih]

theorem beNat_lt (bs : Bytes) : beNat bs < 256 ^ bs.length := by
  induction bs with
  | nil => simp [beNat]
  | cons b bs ih =>
    have hb : b.toNat + 1 ≤ 256 := b.toNat_lt
    calc b.toNat * 256 ^ bs.length + beNat bs
        < b.toNat * 256 ^ bs.length + 256 ^ bs.length := by omega
      _ = (b.toNat + 1) * 256 ^ bs.length := by ring
      _ ≤ 256 * 256 ^ bs.length := Nat.mul_le_mul_right _ hb
      _ = 256 ^ (bs.length + 1) := by ring

theorem beNat_append (xs ys : Bytes) :
    beNat (xs ++ ys) = beNat xs * 256 ^ ys.length + beNat ys := by
  induction xs with
  | nil => simp [beNat]
  | cons b xs ih =>
    simp only [List.cons_append, beNat, ih, List.length_append, Nat.pow_add]
    ring

@[simp] theorem beNat_replicate_zero (n : Nat) : beNat (List.replicate n 0) = 0 := by
  induction n with
  | zero => rfl
  | succ n ih => simp [List.replicate_succ, beNat, ih]

/-- Reading back a rendered value gives its low bytes. -/
theorem beNat_beBytes (w v : Nat) : beNat (beBytes w v) = v % 256 ^ w := by
  induction w with
  | zero => simp [beBytes, beNat, Nat.mod_one]
  | succ w ih =>
    rw [beBytes, beNat, length_beBytes, ih, UInt8.toNat_ofNat', Nat.mod_pow_succ (b := 256)]
    rw [Nat.add_comm, Nat.mul_comm]

theorem beNat_beBytes_of_lt {w v : Nat} (h : v < 256 ^ w) : beNat (beBytes w v) = v := by
  rw [beNat_beBytes, Nat.mod_eq_of_lt h]

/-- Rendering ignores everything above the low `w` bytes. -/
theorem beBytes_add_mul (w v k : Nat) : beBytes w (v + k * 256 ^ w) = beBytes w v := by
  induction w generalizing k with
  | zero => rfl
  | succ w ih =>
    have hsplit : k * 256 ^ (w + 1) = (k * 256) * 256 ^ w := by ring
    have hpos : 0 < 256 ^ w := Nat.pow_pos (by decide)
    have hbyte : UInt8.ofNat (v / 256 ^ w + k * 256) = UInt8.ofNat (v / 256 ^ w) := by
      apply UInt8.toNat_inj.mp
      simp only [UInt8.toNat_ofNat']
      omega
    simp only [beBytes]
    rw [hsplit, ih, Nat.add_mul_div_right _ _ hpos, hbyte]

/-- Every byte string is the rendering of its value. -/
theorem beBytes_beNat (bs : Bytes) : beBytes bs.length (beNat bs) = bs := by
  induction bs with
  | nil => rfl
  | cons b bs ih =>
    have hpos : 0 < 256 ^ bs.length := Nat.pow_pos (by decide)
    have hdiv : (beNat bs + b.toNat * 256 ^ bs.length) / 256 ^ bs.length = b.toNat := by
      rw [Nat.add_mul_div_right _ _ hpos, Nat.div_eq_of_lt (beNat_lt bs), Nat.zero_add]
    simp only [List.length_cons, beBytes, beNat]
    rw [Nat.add_comm (b.toNat * _), beBytes_add_mul, ih, hdiv, UInt8.ofNat_toNat]

end MasqueQuic
