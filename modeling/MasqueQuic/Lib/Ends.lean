/-
Computations that end well or fail in an allowed way.

`Ends E x Q` says that the computation `x` returns a value that satisfies `Q`, or fails
with an error that `E` allows. The rules follow the shape of the computation: sequencing,
branching, and loops over a list with an invariant that may speak about what is still to
come.

A `Steady` reader fails only in an allowed way and never moves backwards.
-/

import MasqueQuic.Lib.Reader

namespace MasqueQuic

variable {φ ψ α β : Type} {E : φ → Prop} {x : Except φ α} {P Q : α → Prop}

def Ends (E : φ → Prop) (x : Except φ α) (Q : α → Prop) : Prop :=
  match x with
  | .ok a => Q a
  | .error e => E e

namespace Ends

theorem ok {a : α} (h : Q a) : Ends E (.ok a) Q := h

theorem error {e : φ} (h : E e) : Ends E (.error e : Except φ α) Q := h

theorem of_ok {a : α} (h : Ends E x Q) (hx : x = .ok a) : Q a := by
  subst hx
  exact h

theorem of_error {e : φ} (h : Ends E x Q) (hx : x = .error e) : E e := by
  subst hx
  exact h

/-- Where no failure is allowed there is a result. -/
theorem exists_ok (h : Ends (fun _ => False) x Q) : ∃ a, x = .ok a ∧ Q a := by
  cases x with
  | error e => exact False.elim h
  | ok a => exact ⟨a, rfl, h⟩

theorem of_forall (hE : ∀ e, E e) (hQ : ∀ a, Q a) : Ends E x Q := by
  cases x with
  | error e => exact hE e
  | ok a => exact hQ a

theorem imp (h : Ends E x P) (hPQ : ∀ a, P a → Q a) : Ends E x Q := by
  cases x with
  | error e => exact h
  | ok a => exact hPQ a h

/-- The value that satisfies `Q` is the one that was computed. -/
theorem with_eq (h : Ends E x Q) : Ends E x (fun a => x = .ok a ∧ Q a) := by
  cases x with
  | error e => exact h
  | ok a => exact ⟨rfl, h⟩

/-- Another property of the value that is returned. -/
theorem also (hP : Ends E x P) (hQ : Ends (fun _ => True) x Q) :
    Ends E x (fun a => P a ∧ Q a) := by
  cases x with
  | error e => exact hP
  | ok a => exact ⟨hP, hQ⟩

/-- How the computation may fail is forgotten. -/
theorem forget (h : Ends E x Q) : Ends (fun _ => True) x Q := by
  cases x with
  | error e => trivial
  | ok a => exact h

/-- Nothing is said about the computation. -/
theorem any : Ends (fun _ => True) x (fun _ => True) :=
  of_forall (fun _ => trivial) fun _ => trivial

theorem bind {f : α → Except φ β} {R : β → Prop} (hx : Ends E x P)
    (hf : ∀ a, P a → Ends E (f a) R) : Ends E (x >>= f) R := by
  cases x with
  | error e => exact hx
  | ok a => exact hf a hx

theorem map {f : α → β} {R : β → Prop} (hx : Ends E x (fun a => R (f a))) : Ends E (f <$> x) R := by
  cases x with
  | error e => exact hx
  | ok a => exact hx

theorem ite {p : Prop} [Decidable p] {y : Except φ α} (hx : p → Ends E x Q)
    (hy : ¬ p → Ends E y Q) : Ends E (if p then x else y) Q := by
  by_cases h : p
  · rw [if_pos h]
    exact hx h
  · rw [if_neg h]
    exact hy h

/-- A loop over a list. The invariant may speak about the elements that are left. -/
theorem foldlM {f : β → α → Except φ β} {I : β → List α → Prop}
    (hstep : ∀ b a as, I b (a :: as) → Ends E (f b a) (I · as)) {b : β} {as : List α}
    (h : I b as) : Ends E (as.foldlM f b) (I · []) := by
  induction as generalizing b with
  | nil => exact h
  | cons a as ih =>
    rw [List.foldlM_cons]
    exact (hstep b a as h).bind fun b' hb' => ih hb'

end Ends

/-! ### Readers -/

variable {σ : Type}

/-- The reader leaves a suffix of what it is given, or fails with an error that `E` allows. -/
def Steady (E : φ → Prop) (r : Reader φ σ α) : Prop :=
  ∀ s, Ends E (r.run s) fun result => result.2 <:+ s

namespace Steady

theorem pure (a : α) : Steady E (Pure.pure a : Reader φ σ α) :=
  fun s => Ends.ok (List.suffix_refl s)

theorem bind {r : Reader φ σ α} {k : α → Reader φ σ β} (hr : Steady E r)
    (hk : ∀ a, Steady E (k a)) : Steady E (r >>= k) := by
  intro s
  rw [StateT.run_bind]
  refine (hr s).bind fun result hsuffix => ?_
  refine (hk result.1 result.2).imp fun _ hsuffix' => ?_
  exact hsuffix'.trans hsuffix

theorem map {r : Reader φ σ α} {f : α → β} (hr : Steady E r) : Steady E (f <$> r) := by
  intro s
  rw [StateT.run_map]
  exact Ends.map (hr s)

theorem guard {e : φ} {p : Bool} (he : E e) : Steady E (Reader.guard e p : Reader φ σ Unit) := by
  intro s
  refine Ends.ite (fun _ => Ends.ok (List.suffix_refl s)) fun _ => Ends.error he

theorem take {e : φ} {n : Nat} (he : E e) : Steady E (Reader.take e n : Reader φ σ _) := by
  intro s
  change Ends E (dite _ _ _) _
  split
  · exact List.drop_suffix n s
  · exact he

end Steady

end MasqueQuic
