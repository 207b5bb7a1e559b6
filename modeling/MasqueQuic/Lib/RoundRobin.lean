/-
Going round a sorted list with a marker.

The marker moves to the next element, and from the last one to the first. `Comes` says which of two
elements the marker comes to first. A history is fair (`Rotation.Follows.fair`): between two turns
of one element every other one that stays in the list has a turn, whatever is inserted and erased.
-/

import Mathlib.Data.List.Basic
import Mathlib.Order.Lattice

namespace MasqueQuic.RoundRobin

variable {α : Type} [LinearOrder α] {l A B V W : List α} {m : Option α} {s t x y : α}

/-- The first element behind `x`. -/
def following (x : α) (l : List α) : Option α := l.find? fun y => decide (x < y)

/-- The element behind `x`, which is the first one behind the last. -/
def nextOf (x : α) (l : List α) : Option α := (following x l).or l.head?

theorem following_spec (h : l.Pairwise (· < ·)) :
    (∃ y, following x l = some y ∧ y ∈ l ∧ x < y ∧ ∀ t ∈ l, x < t → y ≤ t) ∨
      following x l = none ∧ ∀ t ∈ l, t ≤ x := by
  induction l with
  | nil => exact .inr ⟨rfl, fun t ht => absurd ht List.not_mem_nil⟩
  | cons a l ih =>
    obtain ⟨ha, hl⟩ := List.pairwise_cons.mp h
    by_cases hlt : x < a
    · refine .inl ⟨a, List.find?_cons_of_pos (by simpa using hlt), List.mem_cons_self, hlt, ?_⟩
      intro t ht _
      rcases List.mem_cons.mp ht with rfl | ht
      · exact le_refl _
      · exact (ha t ht).le
    · have hskip : following x (a :: l) = following x l :=
        List.find?_cons_of_neg (by simpa using hlt)
      rw [hskip]
      rcases ih hl with ⟨y, hy, hmem, hxy, hleast⟩ | ⟨hnone, hlast⟩
      · refine .inl ⟨y, hy, List.mem_cons_of_mem a hmem, hxy, fun t ht hxt => ?_⟩
        rcases List.mem_cons.mp ht with rfl | ht
        · exact absurd hxt hlt
        · exact hleast t ht hxt
      · refine .inr ⟨hnone, fun t ht => ?_⟩
        rcases List.mem_cons.mp ht with rfl | ht
        · exact not_lt.mp hlt
        · exact hlast t ht

theorem head_le (h : l.Pairwise (· < ·)) (hy : l.head? = some y) (ht : t ∈ l) : y ≤ t := by
  cases l with
  | nil => cases hy
  | cons a l =>
    cases hy
    rcases List.mem_cons.mp ht with rfl | ht
    · exact le_refl _
    · exact ((List.pairwise_cons.mp h).1 t ht).le

/-- Where the marker goes from `x`: to the least element behind it, or to the first of all. -/
theorem nextOf_spec (h : l.Pairwise (· < ·)) (ht : t ∈ l) :
    ∃ y, nextOf x l = some y ∧ y ∈ l ∧ (x < y ∧ (x < t → y ≤ t) ∨ t ≤ x ∧ y ≤ t) := by
  unfold nextOf
  rcases following_spec (x := x) h with ⟨y, hy, hmem, hxy, hleast⟩ | ⟨hnone, hlast⟩
  · rw [hy]
    exact ⟨y, rfl, hmem, .inl ⟨hxy, hleast t ht⟩⟩
  · rw [hnone]
    cases hhead : l.head? with
    | none =>
      rw [List.head?_eq_none_iff.mp hhead] at ht
      exact absurd ht List.not_mem_nil
    | some y => exact ⟨y, rfl, List.mem_of_head? hhead, .inr ⟨hlast t ht, head_le h hhead ht⟩⟩

/-! ### Which of two comes first -/

/-- On its way from `m` on, the marker comes to `t` before it comes to `s`. At the end it is before
the first element. -/
def Comes (m : Option α) (t s : α) : Prop :=
  match m with
  | none => t < s
  | some x => if x ≤ s then x ≤ t ∧ t < s else x ≤ t ∨ t < s

theorem not_comes_self : ¬ Comes (some s) t s := by
  intro h
  unfold Comes at h
  dsimp only at h
  rw [if_pos (le_refl s)] at h
  exact absurd h.2 (not_lt.mpr h.1)

/-- Behind a turn of `s` all others come first. -/
theorem comes_of_turn (h : l.Pairwise (· < ·)) (ht : t ∈ l) (hne : t ≠ s) :
    Comes (nextOf s l) t s := by
  obtain ⟨y, hy, hmem, hcase⟩ := nextOf_spec (x := s) h ht
  rw [hy]
  unfold Comes
  dsimp only
  rcases hcase with ⟨hsy, hleast⟩ | ⟨hts, hyt⟩
  · rw [if_neg (not_le.mpr hsy)]
    rcases lt_or_gt_of_ne hne with hlt | hgt
    · exact .inr hlt
    · exact .inl (hleast hgt)
  · have hlt : t < s := lt_of_le_of_ne hts hne
    rw [if_pos (hyt.trans hts)]
    exact ⟨hyt, hlt⟩

/-- The marker passes `x`, which is another one than `t`. -/
theorem Comes.next (hcomes : Comes (some x) t s) (h : l.Pairwise (· < ·)) (ht : t ∈ l)
    (hne : x ≠ t) : Comes (nextOf x l) t s := by
  obtain ⟨y, hy, -, hcase⟩ := nextOf_spec (x := x) h ht
  rw [hy]
  unfold Comes at hcomes ⊢
  dsimp only at hcomes ⊢
  by_cases hxs : x ≤ s
  · rw [if_pos hxs] at hcomes
    obtain ⟨hxt, hts⟩ := hcomes
    have hlt : x < t := lt_of_le_of_ne hxt hne
    rcases hcase with ⟨-, hleast⟩ | ⟨htx, -⟩
    · have hyt := hleast hlt
      rw [if_pos (hyt.trans hts.le)]
      exact ⟨hyt, hts⟩
    · exact absurd hlt (not_lt.mpr htx)
  · rw [if_neg hxs] at hcomes
    have hsx : s < x := not_le.mp hxs
    rcases hcase with ⟨hxy, hleast⟩ | ⟨htx, hyt⟩
    · rw [if_neg (not_le.mpr (hsx.trans hxy))]
      rcases hcomes with hxt | hts
      · exact .inl (hleast (lt_of_le_of_ne hxt hne))
      · exact .inr hts
    · rcases hcomes with hxt | hts
      · exact absurd (le_antisymm hxt htx) hne
      · rw [if_pos (hyt.trans hts.le)]
        exact ⟨hyt, hts⟩

/-- The element at the marker is erased. -/
theorem Comes.following (hcomes : Comes (some x) t s) (h : l.Pairwise (· < ·)) (ht : t ∈ l)
    (hne : x ≠ t) : Comes (following x l) t s := by
  rcases following_spec (x := x) h with ⟨y, hy, -, -, -⟩ | ⟨hnone, hlast⟩
  · have hnext := hcomes.next h ht hne
    rwa [nextOf, hy, Option.some_or, ← hy] at hnext
  · rw [hnone]
    have htx : t < x := lt_of_le_of_ne (hlast t ht) hne.symm
    unfold Comes at hcomes ⊢
    dsimp only at hcomes ⊢
    split at hcomes
    · exact absurd htx (not_lt.mpr hcomes.1)
    · exact hcomes.resolve_left (not_le.mpr htx)

/-- From the end the marker goes to the first element. -/
theorem Comes.begin (hcomes : Comes none t s) (h : l.Pairwise (· < ·)) (ht : t ∈ l) :
    Comes l.head? t s := by
  cases hhead : l.head? with
  | none => exact hcomes
  | some y =>
    have hlt : t < s := hcomes
    have hyt := head_le h hhead ht
    unfold Comes
    dsimp only
    rw [if_pos (hyt.trans hlt.le)]
    exact ⟨hyt, hlt⟩

/-! ### Histories -/

/-- A turn, or a change of the list without one; `items` is the list then. -/
structure Moment (α : Type) where
  items : List α
  turn : Option α

/-- Between two turns of `s`, whoever stays in the list has a turn. -/
def Fair (log : List (Moment α)) : Prop :=
  ∀ before between after first last, log = before ++ first :: (between ++ last :: after) →
    ∀ s t, first.turn = some s → last.turn = some s → t ≠ s → t ∈ first.items →
      (∀ k ∈ between, t ∈ k.items) → ∃ k ∈ between, k.turn = some t

/-- A sorted list and a marker in it, which is `none` at the end. -/
structure Rotation (α : Type) where
  items : List α
  marker : Option α

/-- What happens to a rotation, with the moments of it. A new start at the end leaves no trace. -/
inductive Rotation.Follows : Rotation α → List (Moment α) → Rotation α → Prop
  | refl (r : Rotation α) : Follows r [] r
  | begin {items log r} (sorted : items.Pairwise (· < ·))
      (rest : Follows ⟨items, items.head?⟩ log r) : Follows ⟨items, none⟩ log r
  | turn {items x log r} (sorted : items.Pairwise (· < ·)) (mem : x ∈ items)
      (rest : Follows ⟨items, nextOf x items⟩ log r) :
      Follows ⟨items, some x⟩ (⟨items, some x⟩ :: log) r
  | insert {items items' marker log r} (subset : items ⊆ items')
      (rest : Follows ⟨items', marker⟩ log r) : Follows ⟨items, marker⟩ (⟨items', none⟩ :: log) r
  | erase {items y marker log r} (sorted : items.Pairwise (· < ·))
      (rest : Follows
        ⟨items.erase y, if marker = some y then following y items else marker⟩ log r) :
      Follows ⟨items, marker⟩ (⟨items.erase y, none⟩ :: log) r

namespace Rotation.Follows

variable {r r' r'' : Rotation α} {log log' : List (Moment α)}

theorem append (h : Follows r log r') (h' : Follows r' log' r'') :
    Follows r (log ++ log') r'' := by
  induction h with
  | refl r => exact h'
  | begin sorted _ ih => exact .begin sorted (ih h')
  | turn sorted mem _ ih => exact .turn sorted mem (ih h')
  | insert subset _ ih => exact .insert subset (ih h')
  | erase sorted _ ih => exact .erase sorted (ih h')

theorem mem_of_mem_erase {y : α} (h : l.Pairwise (· < ·)) (ht : t ∈ l.erase y) :
    t ∈ l ∧ y ≠ t := by
  have hnodup : l.Nodup := h.imp fun hlt => ne_of_lt hlt
  have hmem := hnodup.mem_erase_iff.mp ht
  exact ⟨hmem.2, hmem.1.symm⟩

/-- Whoever comes before `s` and stays has a turn before `s` has one. -/
theorem turn_of_comes (h : Follows r log r') {between after : List (Moment α)} {last : Moment α}
    (hlog : log = between ++ last :: after) (hlast : last.turn = some s)
    (hcomes : Comes r.marker t s) (ht : t ∈ r.items) (hstays : ∀ k ∈ between, t ∈ k.items) :
    ∃ k ∈ between, k.turn = some t := by
  induction h generalizing between with
  | refl r =>
    have hlength := congrArg List.length hlog
    simp at hlength
  | begin sorted _ ih => exact ih hlog (hcomes.begin sorted ht) ht hstays
  | @turn items x log r sorted mem rest ih =>
    cases between with
    | nil =>
      obtain ⟨rfl, -⟩ := List.cons.inj hlog
      cases hlast
      exact absurd hcomes not_comes_self
    | cons k between =>
      obtain ⟨rfl, htail⟩ := List.cons.inj hlog
      by_cases hx : x = t
      · exact ⟨_, List.mem_cons_self, congrArg some hx⟩
      · obtain ⟨k, hk, hturn⟩ := ih htail (hcomes.next sorted ht hx) ht
          fun k hk => hstays k (List.mem_cons_of_mem _ hk)
        exact ⟨k, List.mem_cons_of_mem _ hk, hturn⟩
  | @insert items items' marker log r subset rest ih =>
    cases between with
    | nil =>
      obtain ⟨rfl, -⟩ := List.cons.inj hlog
      cases hlast
    | cons k between =>
      obtain ⟨rfl, htail⟩ := List.cons.inj hlog
      obtain ⟨k, hk, hturn⟩ := ih htail hcomes (subset ht)
        fun k hk => hstays k (List.mem_cons_of_mem _ hk)
      exact ⟨k, List.mem_cons_of_mem _ hk, hturn⟩
  | @erase items y marker log r sorted rest ih =>
    cases between with
    | nil =>
      obtain ⟨rfl, -⟩ := List.cons.inj hlog
      cases hlast
    | cons k between =>
      obtain ⟨rfl, htail⟩ := List.cons.inj hlog
      have hmem : t ∈ items.erase y := hstays _ List.mem_cons_self
      obtain ⟨-, hne⟩ := mem_of_mem_erase sorted hmem
      have hcomes' : Comes (if marker = some y then following y items else marker) t s := by
        split
        · next hmarker =>
            rw [hmarker] at hcomes
            exact hcomes.following sorted ht hne
        · exact hcomes
      obtain ⟨k, hk, hturn⟩ := ih htail hcomes' hmem
        fun k hk => hstays k (List.mem_cons_of_mem _ hk)
      exact ⟨k, List.mem_cons_of_mem _ hk, hturn⟩

/-- Every history is fair. -/
theorem fair (h : Follows r log r') : Fair log := by
  intro before between after first last hlog s t hfirst hlast hne ht hstays
  induction h generalizing before with
  | refl r =>
    have hlength := congrArg List.length hlog
    simp at hlength
  | begin _ _ ih => exact ih before hlog
  | @turn items x log r sorted mem rest ih =>
    cases before with
    | nil =>
      obtain ⟨rfl, htail⟩ := List.cons.inj hlog
      cases hfirst
      exact rest.turn_of_comes htail hlast (comes_of_turn sorted ht hne) ht hstays
    | cons k before => exact ih before (List.cons.inj hlog).2
  | insert _ _ ih =>
    cases before with
    | nil =>
      obtain ⟨rfl, -⟩ := List.cons.inj hlog
      cases hfirst
    | cons k before => exact ih before (List.cons.inj hlog).2
  | erase _ _ ih =>
    cases before with
    | nil =>
      obtain ⟨rfl, -⟩ := List.cons.inj hlog
      cases hfirst
    | cons k before => exact ih before (List.cons.inj hlog).2

end Rotation.Follows

/-! ### One round -/

/-- `order` is the list from some element on, with the elements before that one behind. -/
def Ring {α : Type} (order l : List α) : Prop := ∃ A B, l = A ++ B ∧ order = B ++ A

section

variable {α : Type} {order l : List α} {x : α}

theorem ring_self (l : List α) : Ring l l := ⟨[], l, rfl, (List.append_nil l).symm⟩

theorem Ring.length_eq (h : Ring order l) : order.length = l.length := by
  obtain ⟨A, B, rfl, rfl⟩ := h
  rw [List.length_append, List.length_append, Nat.add_comm]

theorem Ring.mem_iff (h : Ring order l) : x ∈ order ↔ x ∈ l := by
  obtain ⟨A, B, rfl, rfl⟩ := h
  rw [List.mem_append, List.mem_append, or_comm]

theorem Ring.nodup (h : Ring order l) (hl : l.Nodup) : order.Nodup := by
  obtain ⟨A, B, rfl, rfl⟩ := h
  exact List.perm_append_comm.nodup_iff.mp hl

end

theorem following_append (h : (A ++ x :: B).Pairwise (· < ·)) :
    following x (A ++ x :: B) = B.head? := by
  unfold following
  obtain ⟨hA, hB, hAB⟩ := List.pairwise_append.mp h
  have hbefore : A.find? (fun y => decide (x < y)) = none := by
    refine List.find?_eq_none.mpr fun y hy => ?_
    have hlt := hAB y hy x List.mem_cons_self
    simpa using hlt.le
  rw [List.find?_append, hbefore, Option.none_or, List.find?_cons_of_neg (by simp)]
  cases B with
  | nil => rfl
  | cons y B =>
    have hlt := (List.pairwise_cons.mp hB).1 y List.mem_cons_self
    exact List.find?_cons_of_pos (by simpa using hlt)

/-- Behind each element of a round comes the next one, and behind the last the first. -/
theorem Ring.nextOf (h : Ring (V ++ x :: W) l) (hl : l.Pairwise (· < ·)) :
    nextOf x l = (W ++ V ++ [x]).head? := by
  obtain ⟨A, B, rfl, horder⟩ := h
  unfold RoundRobin.nextOf
  rcases List.append_eq_append_iff.mp horder with ⟨C, rfl, hC⟩ | ⟨C, rfl, rfl⟩
  · rcases List.cons_eq_append_iff.mp hC with ⟨rfl, rfl⟩ | ⟨C', rfl, rfl⟩
    · have hbehind := @following_append _ _ [] (W ++ V) x (by simpa using hl)
      simp only [List.nil_append] at hbehind
      simp only [List.append_nil, List.cons_append, hbehind]
      simp [List.head?_append]
    · have hsplit : A ++ (V ++ x :: C') = (A ++ V) ++ x :: C' := by simp
      rw [hsplit] at hl ⊢
      rw [following_append hl]
      simp [List.head?_append]
  · have hsplit : C ++ x :: W ++ B = C ++ x :: (W ++ B) := by simp
    rw [hsplit] at hl ⊢
    rw [following_append hl]
    simp [List.head?_append]

end MasqueQuic.RoundRobin
