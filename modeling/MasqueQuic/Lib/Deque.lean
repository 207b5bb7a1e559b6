/-
A double-ended queue that is walked from its end.

A reverse iterator is given by its base: base `b` stands for the element at `b - 1`, and
`0` is the end of the walk. `rfind` is the search from such an iterator towards the front
and `eraseRange` removes what lies between two bases. Both are specified by a split of
the list, so that proofs about a loop over iterators are inductions over lists.
-/

import Mathlib.Data.List.Basic
import Mathlib.Data.List.Induction

namespace MasqueQuic.Deque

variable {α : Type}

/-- The first element at or before base `b`, walking to the front, that satisfies `f`. -/
def rfind (f : α → Bool) (l : List α) : Nat → Nat
  | 0 => 0
  | b + 1 =>
      match l[b]? with
      | none => rfind f l b
      | some x => if f x then b + 1 else rfind f l b

def eraseRange (l : List α) (first last : Nat) : List α := l.take first ++ l.drop last

theorem getElem?_concat_append (pre post : List α) (x : α) :
    (pre ++ [x] ++ post)[pre.length]? = some x := by
  simp

theorem eraseRange_append (pre mid post : List α) :
    eraseRange (pre ++ mid ++ post) pre.length (pre ++ mid).length = pre ++ post := by
  have htake : (pre ++ mid ++ post).take pre.length = pre := by
    rw [List.append_assoc, List.take_left]
  rw [eraseRange, htake, List.drop_left]

theorem eraseRange_self (l : List α) (b : Nat) : eraseRange l b b = l :=
  List.take_append_drop b l

/-- The search passes over elements that do not satisfy `f` and stops behind one that
does, or at the end. -/
theorem rfind_split (f : α → Bool) (pre post : List α) :
    ∃ front skipped, pre = front ++ skipped ∧
      rfind f (pre ++ post) pre.length = front.length ∧ (∀ x ∈ skipped, f x = false) ∧
      (front = [] ∨ ∃ init x, front = init ++ [x] ∧ f x = true) := by
  induction pre using List.reverseRecOn generalizing post with
  | nil => exact ⟨[], [], rfl, rfl, by simp, .inl rfl⟩
  | append_singleton pre x ih =>
    have hlen : (pre ++ [x]).length = pre.length + 1 := by simp
    by_cases hx : f x = true
    · refine ⟨pre ++ [x], [], by simp, ?_, by simp, .inr ⟨pre, x, rfl, hx⟩⟩
      rw [hlen, rfind, getElem?_concat_append]
      exact if_pos hx
    · obtain ⟨front, skipped, hpre, hfind, hskipped, hfront⟩ := ih ([x] ++ post)
      refine ⟨front, skipped ++ [x], by rw [hpre, List.append_assoc], ?_, ?_, hfront⟩
      · rw [hlen, rfind, getElem?_concat_append]
        refine (if_neg hx).trans ?_
        rw [List.append_assoc]
        exact hfind
      · intro y hy
        rcases List.mem_append.mp hy with hy | hy
        · exact hskipped y hy
        · rw [List.mem_singleton.mp hy]
          exact eq_false_of_ne_true hx

theorem rfind_le_length (f : α → Bool) (l : List α) : rfind f l l.length ≤ l.length := by
  obtain ⟨front, skipped, hsplit, hfind, -, -⟩ := rfind_split f l []
  rw [List.append_nil] at hfind
  rw [hfind, hsplit, List.length_append]
  exact Nat.le_add_right _ _

theorem insertIdx_length_append (pre post : List α) (x : α) :
    (pre ++ post).insertIdx pre.length x = pre ++ x :: post := by
  induction pre with
  | nil => rfl
  | cons y pre ih =>
    rw [List.cons_append, List.length_cons, List.insertIdx_succ_cons, ih]
    rfl

end MasqueQuic.Deque
