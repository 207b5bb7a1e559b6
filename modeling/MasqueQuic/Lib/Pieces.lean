/-
Cutting a sequence into pieces of equal length.

`cut n xs` are the pieces of length `n` of `xs`, the last of which may be shorter. What is joined can
be cut again if all parts but the last have length `n` and the last one is neither empty nor longer
(`Cuttable`).
-/

import Mathlib.Data.List.Basic

namespace MasqueQuic.Pieces

variable {α : Type} {n : Nat} {xs : List α} {p : List α} {parts : List (List α)}

def cutFuel (n : Nat) : Nat → List α → List (List α)
  | 0, _ => []
  | fuel + 1, xs => if xs.length ≤ n then [xs] else xs.take n :: cutFuel n fuel (xs.drop n)

/-- The pieces of `xs`. With `n = 0` nothing is cut. -/
def cut (n : Nat) (xs : List α) : List (List α) :=
  if n = 0 then [xs] else cutFuel n xs.length xs

/-- All parts have length `n` except the last, which may be shorter but is not empty. -/
structure Cuttable (n : Nat) (parts : List (List α)) : Prop where
  positive : 0 < n
  full : ∀ p ∈ parts.dropLast, p.length = n
  last : ∀ p, parts.getLast? = some p → 0 < p.length ∧ p.length ≤ n

/-- A part may be added behind full ones. -/
theorem Cuttable.concat (hfull : ∀ q ∈ parts, q.length = n) (hp : 0 < p.length) (hle : p.length ≤ n) :
    Cuttable n (parts ++ [p]) where
  positive := Nat.lt_of_lt_of_le hp hle
  full q hq := by
    rw [List.dropLast_concat] at hq
    exact hfull q hq
  last q hq := by
    rw [List.getLast?_concat] at hq
    cases hq
    exact ⟨hp, hle⟩

theorem Cuttable.tail {q : List α} (h : Cuttable n (p :: q :: parts)) : Cuttable n (q :: parts) where
  positive := h.positive
  full r hr := by
    refine h.full r ?_
    rw [List.dropLast_cons_cons]
    exact List.mem_cons_of_mem _ hr
  last r hr := by
    refine h.last r ?_
    rw [List.getLast?_cons_cons]
    exact hr

theorem Cuttable.head_length {q : List α} (h : Cuttable n (p :: q :: parts)) : p.length = n := by
  refine h.full p ?_
  rw [List.dropLast_cons_cons]
  exact List.mem_cons_self

theorem cutFuel_flatten (h : Cuttable n parts) (hne : parts ≠ []) {fuel : Nat}
    (hfuel : parts.flatten.length ≤ fuel) : cutFuel n fuel parts.flatten = parts := by
  induction parts generalizing fuel with
  | nil => exact absurd rfl hne
  | cons p rest ih =>
    cases rest with
    | nil =>
      obtain ⟨hpos, hle⟩ := h.last p rfl
      rw [List.flatten_singleton] at hfuel ⊢
      obtain ⟨fuel, rfl⟩ : ∃ k, fuel = k + 1 := ⟨fuel - 1, by omega⟩
      rw [cutFuel, if_pos hle]
    | cons q rest =>
      have hlength := h.head_length
      have htail := h.tail
      have hpos := h.positive
      have hq : 0 < (q :: rest).flatten.length := by
        cases rest with
        | nil =>
          rw [List.flatten_singleton]
          exact (htail.last q rfl).1
        | cons r rest =>
          rw [List.flatten_cons, List.length_append, htail.head_length]
          omega
      rw [List.flatten_cons] at hfuel ⊢
      rw [List.length_append] at hfuel
      obtain ⟨fuel, rfl⟩ : ∃ k, fuel = k + 1 := ⟨fuel - 1, by omega⟩
      have hlong : ¬ (p ++ (q :: rest).flatten).length ≤ n := by
        rw [List.length_append]
        omega
      rw [cutFuel, if_neg hlong, List.take_left' hlength, List.drop_left' hlength,
        ih htail (List.cons_ne_nil _ _) (by omega)]

/-- What was joined is cut into its parts. -/
theorem cut_flatten (h : Cuttable n parts) (hne : parts ≠ []) : cut n parts.flatten = parts := by
  rw [cut, if_neg (Nat.pos_iff_ne_zero.mp h.positive)]
  exact cutFuel_flatten h hne (Nat.le_refl _)

end MasqueQuic.Pieces
