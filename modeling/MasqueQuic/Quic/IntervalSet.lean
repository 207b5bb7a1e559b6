/-
`IntervalSet`: a set of integers as a sorted list of intervals (`quic/common/IntervalSet.h`).

The bounds are below `2^62` where the sets are used, so that nothing wraps around. No two intervals touch:
there is a point between them that belongs to neither. That is a field of `IntervalSet`, and what
`insert` and `withdraw` keep; what they do to the points is set union and difference
(`points_insert`, `points_withdraw`, and `intervalSet_exact` for whole runs).
-/

import Mathlib.Data.List.TakeWhile
import Mathlib.Order.Interval.Set.Basic

namespace MasqueQuic

structure Interval where
  start : Nat
  end_ : Nat
  start_le : start ≤ end_
  deriving DecidableEq

namespace Interval

def points (i : Interval) : Set Nat := Set.Icc i.start i.end_

/-- There is a point between the two. -/
def Before (a b : Interval) : Prop := a.end_ + 1 < b.start

instance (a b : Interval) : Decidable (a.Before b) := Nat.decLt _ _

end Interval

/-- The intervals are sorted, disjoint and not adjacent. -/
def Apart (intervals : List Interval) : Prop := intervals.Pairwise Interval.Before

/-- The points of a list of intervals. -/
def pointsOf (intervals : List Interval) : Set Nat := {n | ∃ i ∈ intervals, n ∈ i.points}

@[simp] theorem pointsOf_nil : pointsOf [] = ∅ := by
  ext n
  simp [pointsOf]

@[simp] theorem pointsOf_cons (i : Interval) (rest : List Interval) :
    pointsOf (i :: rest) = i.points ∪ pointsOf rest := by
  ext n
  simp [pointsOf]

@[simp] theorem pointsOf_append (as bs : List Interval) :
    pointsOf (as ++ bs) = pointsOf as ∪ pointsOf bs := by
  induction as with
  | nil => simp
  | cons a as ih => simp [ih, Set.union_assoc]

theorem mem_pointsOf {intervals : List Interval} {n : Nat} :
    n ∈ pointsOf intervals ↔ ∃ i ∈ intervals, i.start ≤ n ∧ n ≤ i.end_ := Iff.rfl

/-! ### The operations -/

/-- What is before an interval, what overlaps or touches it, and what is behind it. -/
structure IntersectingRange where
  before : List Interval
  range : List Interval
  after : List Interval

/-- `std::lower_bound` finds the first interval that does not end before `interval`. -/
def intersectingRange (intervals : List Interval) (interval : Interval) : IntersectingRange :=
  let rest := intervals.dropWhile fun a => a.end_ + 1 < interval.start
  { before := intervals.takeWhile fun a => a.end_ + 1 < interval.start
    range := rest.takeWhile fun a => a.start ≤ interval.end_ + 1
    after := rest.dropWhile fun a => a.start ≤ interval.end_ + 1 }

/-- The interval from the first to the last one, and `interval`. -/
def mergeInto (interval first last : Interval) : Interval where
  start := min interval.start first.start
  end_ := max interval.end_ last.end_
  start_le := (min_le_left _ _).trans (interval.start_le.trans (le_max_left _ _))

/-- The intervals, and whether the version changes. -/
def insertInterval (intervals : List Interval) (interval : Interval) : List Interval × Bool :=
  let r := intersectingRange intervals interval
  match r.range with
  | [] => (r.before ++ interval :: r.after, true)
  | first :: rest =>
      let merged := mergeInto interval first ((first :: rest).getLast (List.cons_ne_nil _ _))
      (r.before ++ merged :: r.after,
        decide (first.end_ - first.start < merged.end_ - merged.start))

/-- What is left of an interval in front of another one. -/
def keepFront (first interval : Interval) : List Interval :=
  if h : first.start + 1 ≤ interval.start then
    [⟨first.start, interval.start - 1, Nat.le_sub_one_of_lt h⟩]
  else []

/-- What is left of an interval behind another one. -/
def keepBack (last interval : Interval) : List Interval :=
  if h : interval.end_ + 1 ≤ last.end_ then [⟨interval.end_ + 1, last.end_, h⟩] else []

/-- An interval that holds `interval` inside is split, which leaves a front and a back as well. -/
def withdrawInterval (intervals : List Interval) (interval : Interval) : List Interval :=
  let r := intersectingRange intervals interval
  match r.range with
  | [] => intervals
  | first :: rest =>
      let last := (first :: rest).getLast (List.cons_ne_nil _ _)
      r.before ++ keepFront first interval ++ keepBack last interval ++ r.after

def containsInterval (start end_ : Nat) : List Interval → Bool
  | [] => false
  | itr :: rest =>
      if itr.start ≤ start ∧ end_ ≤ itr.end_ then true
      else if start < itr.end_ then false
      else containsInterval start end_ rest

/-! ### The range -/

/-- What follows the first element without `p` is without `p` as well, where `p` goes down along `R`. -/
theorem not_of_mem_dropWhile {α : Type} {R : α → α → Prop} {p : α → Bool}
    (hdown : ∀ a b, R a b → p b = true → p a = true) {l : List α} (hl : l.Pairwise R) {a : α}
    (ha : a ∈ l.dropWhile p) : p a = false := by
  induction l with
  | nil => cases ha
  | cons b l ih =>
    obtain ⟨hb, hrest⟩ := List.pairwise_cons.mp hl
    by_cases hp : p b = true
    · rw [List.dropWhile_cons_of_pos hp] at ha
      exact ih hrest ha
    · rw [List.dropWhile_cons_of_neg hp] at ha
      rcases List.mem_cons.mp ha with rfl | ha
      · exact Bool.not_eq_true _ ▸ hp
      · by_contra hpa
        exact hp (hdown b a (hb a ha) (Bool.not_eq_false _ ▸ hpa))

/-- What `intersectingRange` returns for a set. -/
structure Splits (c : List Interval) (interval : Interval) (r : IntersectingRange) : Prop where
  eq : r.before ++ (r.range ++ r.after) = c
  before : ∀ a ∈ r.before, a.Before interval
  range : ∀ a ∈ r.range, ¬ a.Before interval ∧ ¬ interval.Before a
  after : ∀ a ∈ r.after, interval.Before a

theorem intersectingRange_splits {c : List Interval} (hc : Apart c) (interval : Interval) :
    Splits c interval (intersectingRange c interval) := by
  unfold intersectingRange
  have hrest : Apart (c.dropWhile fun a => a.end_ + 1 < interval.start) :=
    hc.sublist (List.dropWhile_sublist _)
  have hbehind : ∀ a ∈ c.dropWhile fun a => a.end_ + 1 < interval.start, ¬ a.Before interval := by
    intro a ha
    have hnot := not_of_mem_dropWhile (fun a b hab hb => ?_) hc ha
    · exact of_decide_eq_false hnot
    · have hle := b.start_le
      rw [decide_eq_true_eq] at hb ⊢
      unfold Interval.Before at hab
      omega
  refine ⟨?_, fun a ha => ?_, fun a ha => ⟨?_, ?_⟩, fun a ha => ?_⟩
  · rw [List.takeWhile_append_dropWhile, List.takeWhile_append_dropWhile]
  · have hp := List.mem_takeWhile_imp (p := fun a : Interval => decide (a.end_ + 1 < interval.start)) ha
    exact of_decide_eq_true hp
  · exact hbehind a ((List.takeWhile_sublist _).subset ha)
  · have hp := List.mem_takeWhile_imp (p := fun a : Interval => decide (a.start ≤ interval.end_ + 1)) ha
    have htouch := of_decide_eq_true hp
    unfold Interval.Before
    omega
  · have hnot := not_of_mem_dropWhile (fun a b hab hb => ?_) hrest ha
    · have hlt := of_decide_eq_false hnot
      unfold Interval.Before
      omega
    · have hle := a.start_le
      rw [decide_eq_true_eq] at hb ⊢
      unfold Interval.Before at hab
      omega

namespace Splits

variable {c : List Interval} {interval first : Interval} {rest : List Interval}
  {r : IntersectingRange}

theorem apart (h : Splits c interval r) (hc : Apart c) :
    Apart r.before ∧ Apart r.range ∧ Apart r.after ∧
      (∀ a ∈ r.before, ∀ b ∈ r.range ++ r.after, a.Before b) ∧
      ∀ a ∈ r.range, ∀ b ∈ r.after, a.Before b := by
  rw [← h.eq] at hc
  obtain ⟨hbefore, hbehind, hcross⟩ := List.pairwise_append.mp hc
  obtain ⟨hrange, hafter, hcross'⟩ := List.pairwise_append.mp hbehind
  exact ⟨hbefore, hrange, hafter, hcross, hcross'⟩

end Splits

/-- The first and the last interval of a range. -/
theorem first_or_before {first : Interval} {rest : List Interval} (h : Apart (first :: rest))
    {a : Interval} (ha : a ∈ first :: rest) : a = first ∨ first.Before a := by
  rcases List.mem_cons.mp ha with rfl | ha
  · exact .inl rfl
  · exact .inr ((List.pairwise_cons.mp h).1 a ha)

theorem last_or_before {l : List Interval} (h : Apart l) (hne : l ≠ []) {a : Interval} (ha : a ∈ l) :
    a = l.getLast hne ∨ a.Before (l.getLast hne) := by
  rw [← List.dropLast_concat_getLast hne] at h ha
  rcases List.mem_append.mp ha with ha | ha
  · exact .inr ((List.pairwise_append.mp h).2.2 a ha _ (List.mem_singleton_self _))
  · exact .inl (List.mem_singleton.mp ha)

/-- The points of a range that is not empty, and what is missing between `first` and its neighbour. -/
theorem range_bounds {first : Interval} {rest : List Interval} (h : Apart (first :: rest))
    (hne : first :: rest ≠ []) {a : Interval} (ha : a ∈ first :: rest) :
    first.start ≤ a.start ∧ a.end_ ≤ ((first :: rest).getLast hne).end_ := by
  have hfirst := first.start_le
  have hlast := ((first :: rest).getLast hne).start_le
  constructor
  · rcases first_or_before h ha with rfl | hbefore
    · exact Nat.le_refl _
    · unfold Interval.Before at hbefore
      omega
  · rcases last_or_before h hne ha with heq | hbefore
    · rw [← heq]
    · unfold Interval.Before at hbefore
      omega

/-! ### Insertion -/

/-- The merged interval covers the range and what is inserted. -/
theorem points_mergeInto {interval first : Interval} {rest : List Interval}
    (h : Apart (first :: rest)) (hne : first :: rest ≠ [])
    (htouch : ∀ a ∈ first :: rest, ¬ a.Before interval ∧ ¬ interval.Before a) :
    (mergeInto interval first ((first :: rest).getLast hne)).points =
      pointsOf (first :: rest) ∪ interval.points := by
  have hfirst := (htouch first List.mem_cons_self).1
  have hlast := (htouch _ (List.getLast_mem hne)).2
  have hlast_mem := List.getLast_mem hne
  ext n
  rw [Set.mem_union, mem_pointsOf]
  unfold Interval.points mergeInto
  simp only [Set.mem_Icc]
  unfold Interval.Before at hfirst hlast
  constructor
  · intro hn
    by_cases hfront : n < interval.start
    · exact .inl ⟨first, List.mem_cons_self, by omega, by omega⟩
    · by_cases hback : interval.end_ < n
      · exact .inl ⟨_, hlast_mem, by omega, by omega⟩
      · exact .inr ⟨by omega, by omega⟩
  · rintro (⟨a, ha, hn⟩ | hn)
    · have hbounds := range_bounds h hne ha
      omega
    · omega

theorem points_insertInterval {c : List Interval} (hc : Apart c) (interval : Interval) :
    pointsOf (insertInterval c interval).1 = pointsOf c ∪ interval.points := by
  have hsplits := intersectingRange_splits hc interval
  have happart := hsplits.apart hc
  unfold insertInterval
  generalize intersectingRange c interval = r at hsplits happart
  obtain ⟨before, range, after⟩ := r
  rw [← hsplits.eq]
  cases range with
  | nil =>
    simp only [pointsOf_append, pointsOf_cons, pointsOf_nil, Set.empty_union]
    rw [Set.union_assoc, Set.union_comm interval.points]
  | cons first rest =>
    dsimp only
    rw [pointsOf_append, pointsOf_cons, points_mergeInto happart.2.1 _ hsplits.range,
      pointsOf_append, pointsOf_append]
    simp only [Set.union_assoc]
    rw [Set.union_comm interval.points]

theorem apart_insertInterval {c : List Interval} (hc : Apart c) (interval : Interval) :
    Apart (insertInterval c interval).1 := by
  have hsplits := intersectingRange_splits hc interval
  have happart := hsplits.apart hc
  unfold insertInterval
  generalize intersectingRange c interval = r at hsplits happart
  obtain ⟨before, range, after⟩ := r
  obtain ⟨hbefore, hrange, hafter, hcross, hcross'⟩ := happart
  dsimp only at hbefore hrange hafter hcross hcross'
  have hbetween : ∀ middle : Interval, (∀ a ∈ before, a.Before middle) →
      (∀ b ∈ after, middle.Before b) → Apart (before ++ middle :: after) := by
    intro middle hfront hback
    refine List.pairwise_append.mpr ⟨hbefore, List.pairwise_cons.mpr ⟨hback, hafter⟩, ?_⟩
    intro a ha b hb
    rcases List.mem_cons.mp hb with rfl | hb
    · exact hfront a ha
    · exact hcross a ha b (List.mem_append_right _ hb)
  cases range with
  | nil => exact hbetween interval hsplits.before hsplits.after
  | cons first rest =>
    refine hbetween _ (fun a ha => ?_) fun b hb => ?_
    · have hfirst := hcross a ha first List.mem_cons_self
      have hinterval := hsplits.before a ha
      unfold Interval.Before mergeInto at *
      dsimp only
      omega
    · have hlast := hcross' _ (List.getLast_mem (List.cons_ne_nil first rest)) b hb
      have hinterval := hsplits.after b hb
      unfold Interval.Before mergeInto at *
      dsimp only
      omega

/-- The merged interval is longer than the first one exactly if there is a new point. -/
theorem insertInterval_changes {c : List Interval} (hc : Apart c) (interval : Interval) :
    (insertInterval c interval).2 = true ↔ ∃ n ∈ interval.points, n ∉ pointsOf c := by
  have hsplits := intersectingRange_splits hc interval
  have happart := hsplits.apart hc
  unfold insertInterval
  generalize intersectingRange c interval = r at hsplits happart
  obtain ⟨before, range, after⟩ := r
  obtain ⟨hbefore, hrange, hafter, hcross, hcross'⟩ := happart
  have hle := interval.start_le
  -- a point of the interval can only be in the range
  have hmem : ∀ n ∈ interval.points, n ∈ pointsOf c → ∃ a ∈ range, a.start ≤ n ∧ n ≤ a.end_ := by
    intro n hn hpoint
    rw [← hsplits.eq, mem_pointsOf] at hpoint
    obtain ⟨a, ha, hna⟩ := hpoint
    unfold Interval.points at hn
    rw [Set.mem_Icc] at hn
    rcases List.mem_append.mp ha with ha | ha
    · have := hsplits.before a ha
      unfold Interval.Before at this
      omega
    · rcases List.mem_append.mp ha with ha | ha
      · exact ⟨a, ha, hna⟩
      · have := hsplits.after a ha
        unfold Interval.Before at this
        omega
  cases range with
  | nil =>
    refine iff_of_true rfl ⟨interval.start, ⟨Nat.le_refl _, hle⟩, fun hpoint => ?_⟩
    obtain ⟨a, ha, -⟩ := hmem _ ⟨Nat.le_refl _, hle⟩ hpoint
    cases ha
  | cons first rest =>
    dsimp only at hrange hsplits ⊢
    have hne := List.cons_ne_nil first rest
    have htouch := hsplits.range first List.mem_cons_self
    have hbounds := range_bounds hrange hne List.mem_cons_self
    have hfirst := first.start_le
    rw [decide_eq_true_eq]
    unfold mergeInto
    unfold Interval.Before at htouch
    dsimp only
    constructor
    · intro hlonger
      by_cases hstart : interval.start < first.start
      · refine ⟨interval.start, ⟨Nat.le_refl _, hle⟩, fun hpoint => ?_⟩
        obtain ⟨a, ha, hna⟩ := hmem _ ⟨Nat.le_refl _, hle⟩ hpoint
        have := (range_bounds hrange hne ha).1
        omega
      · have hend : first.end_ < interval.end_ := by
          by_contra hshort
          have hlast : (first :: rest).getLast hne = first := by
            rcases first_or_before hrange (List.getLast_mem hne) with heq | hgap
            · exact heq
            · have := (hsplits.range _ (List.getLast_mem hne)).2
              unfold Interval.Before at this hgap
              omega
          rw [hlast] at hlonger
          omega
        have hn : first.end_ + 1 ∈ interval.points := ⟨by omega, hend⟩
        refine ⟨first.end_ + 1, hn, fun hpoint => ?_⟩
        obtain ⟨a, ha, hna⟩ := hmem _ hn hpoint
        rcases first_or_before hrange ha with rfl | hgap
        · omega
        · unfold Interval.Before at hgap
          omega
    · rintro ⟨n, hn, hpoint⟩
      by_contra hshort
      refine hpoint (mem_pointsOf.mpr ⟨first, ?_, ?_⟩)
      · rw [← hsplits.eq]
        simp
      · unfold Interval.points at hn
        rw [Set.mem_Icc] at hn
        omega

/-! ### Withdrawal -/

theorem mem_keepFront {first interval i : Interval} :
    i ∈ keepFront first interval ↔
      first.start + 1 ≤ interval.start ∧ i.start = first.start ∧ i.end_ = interval.start - 1 := by
  unfold keepFront
  split
  · next h =>
      rw [List.mem_singleton, Interval.mk.injEq]
      exact (and_iff_right h).symm
  · next h => exact iff_of_false (List.not_mem_nil) fun hi => h hi.1

theorem mem_keepBack {last interval i : Interval} :
    i ∈ keepBack last interval ↔
      interval.end_ + 1 ≤ last.end_ ∧ i.start = interval.end_ + 1 ∧ i.end_ = last.end_ := by
  unfold keepBack
  split
  · next h =>
      rw [List.mem_singleton, Interval.mk.injEq]
      exact (and_iff_right h).symm
  · next h => exact iff_of_false (List.not_mem_nil) fun hi => h hi.1

theorem points_keep {interval first : Interval} {rest : List Interval} (h : Apart (first :: rest))
    (hne : first :: rest ≠ [])
    (htouch : ∀ a ∈ first :: rest, ¬ a.Before interval ∧ ¬ interval.Before a) :
    pointsOf (keepFront first interval ++ keepBack ((first :: rest).getLast hne) interval) =
      pointsOf (first :: rest) \ interval.points := by
  have hfirst := (htouch first List.mem_cons_self).1
  have hlast := (htouch _ (List.getLast_mem hne)).2
  have hlast_mem := List.getLast_mem hne
  unfold Interval.Before at hfirst hlast
  ext n
  rw [Set.mem_sdiff, mem_pointsOf, mem_pointsOf]
  unfold Interval.points
  rw [Set.mem_Icc]
  constructor
  · rintro ⟨i, hi, hn⟩
    rcases List.mem_append.mp hi with hi | hi
    · rw [mem_keepFront] at hi
      exact ⟨⟨first, List.mem_cons_self, by omega, by omega⟩, by omega⟩
    · rw [mem_keepBack] at hi
      exact ⟨⟨_, hlast_mem, by omega, by omega⟩, by omega⟩
  · rintro ⟨⟨a, ha, hn⟩, hout⟩
    by_cases hfront : n < interval.start
    · have heq : a = first := by
        rcases first_or_before h ha with heq | hgap
        · exact heq
        · unfold Interval.Before at hgap
          omega
      rw [heq] at hn
      refine ⟨⟨first.start, interval.start - 1, by omega⟩, List.mem_append_left _ ?_,
        (by dsimp only; omega)⟩
      exact mem_keepFront.mpr ⟨by omega, rfl, rfl⟩
    · have heq : a = (first :: rest).getLast hne := by
        rcases last_or_before h hne ha with heq | hgap
        · exact heq
        · unfold Interval.Before at hgap
          omega
      rw [heq] at hn
      refine ⟨⟨interval.end_ + 1, ((first :: rest).getLast hne).end_, by omega⟩,
        List.mem_append_right _ ?_, (by dsimp only; omega)⟩
      exact mem_keepBack.mpr ⟨by omega, rfl, rfl⟩

theorem points_diff_of_before {interval : Interval} {intervals : List Interval}
    (h : ∀ a ∈ intervals, a.Before interval ∨ interval.Before a) :
    pointsOf intervals \ interval.points = pointsOf intervals := by
  refine sdiff_eq_left.mpr (Set.disjoint_left.mpr ?_)
  rintro n ⟨a, ha, hn⟩ hin
  have hgap := h a ha
  unfold Interval.points at hn hin
  rw [Set.mem_Icc] at hn hin
  unfold Interval.Before at hgap
  omega

theorem points_withdrawInterval {c : List Interval} (hc : Apart c) (interval : Interval) :
    pointsOf (withdrawInterval c interval) = pointsOf c \ interval.points := by
  have hsplits := intersectingRange_splits hc interval
  have happart := hsplits.apart hc
  unfold withdrawInterval
  generalize intersectingRange c interval = r at hsplits happart
  obtain ⟨before, range, after⟩ := r
  have hbefore := points_diff_of_before fun a ha => .inl (hsplits.before a ha)
  have hafter := points_diff_of_before fun a ha => .inr (hsplits.after a ha)
  rw [← hsplits.eq]
  cases range with
  | nil =>
    dsimp only at hbefore hafter ⊢
    rw [List.nil_append, pointsOf_append, Set.union_sdiff_distrib, hbefore, hafter]
  | cons first rest =>
    dsimp only at hbefore hafter ⊢
    have hkeep := points_keep happart.2.1 (List.cons_ne_nil _ _) hsplits.range
    rw [List.append_assoc before, pointsOf_append, pointsOf_append, hkeep, pointsOf_append before,
      pointsOf_append (first :: rest), Set.union_sdiff_distrib, Set.union_sdiff_distrib, hbefore,
      hafter, Set.union_assoc]

theorem apart_withdrawInterval {c : List Interval} (hc : Apart c) (interval : Interval) :
    Apart (withdrawInterval c interval) := by
  have hsplits := intersectingRange_splits hc interval
  have happart := hsplits.apart hc
  unfold withdrawInterval
  generalize intersectingRange c interval = r at hsplits happart
  obtain ⟨before, range, after⟩ := r
  obtain ⟨hbefore, hrange, hafter, hcross, hcross'⟩ := happart
  have hle := interval.start_le
  cases range with
  | nil => exact hc
  | cons first rest =>
    dsimp only at hbefore hrange hafter hcross hcross' ⊢
    have hne := List.cons_ne_nil first rest
    have hfront : Apart (keepFront first interval) := by
      unfold keepFront
      split
      · exact List.pairwise_singleton _ _
      · exact .nil
    have hback : Apart (keepBack ((first :: rest).getLast hne) interval) := by
      unfold keepBack
      split
      · exact List.pairwise_singleton _ _
      · exact .nil
    refine List.pairwise_append.mpr ⟨List.pairwise_append.mpr ⟨List.pairwise_append.mpr
      ⟨hbefore, hfront, fun a ha b hb => ?_⟩, hback, fun a ha b hb => ?_⟩, hafter,
      fun a ha b hb => ?_⟩
    · rw [mem_keepFront] at hb
      have hgap := hcross a ha first List.mem_cons_self
      unfold Interval.Before at hgap ⊢
      omega
    · rw [mem_keepBack] at hb
      rcases List.mem_append.mp ha with ha | ha
      · have hgap := hsplits.before a ha
        unfold Interval.Before at hgap ⊢
        omega
      · rw [mem_keepFront] at ha
        unfold Interval.Before
        omega
    · have hinterval := hsplits.after b hb
      have hgap := hcross' _ (List.getLast_mem hne) b hb
      rcases List.mem_append.mp ha with ha | ha
      · rcases List.mem_append.mp ha with ha | ha
        · exact hcross a ha b (List.mem_append_right _ hb)
        · rw [mem_keepFront] at ha
          unfold Interval.Before at hinterval ⊢
          omega
      · rw [mem_keepBack] at ha
        unfold Interval.Before at hgap ⊢
        omega

/-! ### Membership -/

theorem containsInterval_iff {c : List Interval} (hc : Apart c) {start end_ : Nat}
    (h : start ≤ end_) :
    containsInterval start end_ c = true ↔ ∀ n, start ≤ n → n ≤ end_ → n ∈ pointsOf c := by
  induction c with
  | nil =>
    refine iff_of_false Bool.false_ne_true fun hall => ?_
    obtain ⟨a, ha, -⟩ := hall start (Nat.le_refl _) h
    cases ha
  | cons itr rest ih =>
    obtain ⟨hgaps, hrest⟩ := List.pairwise_cons.mp hc
    have hitr := itr.start_le
    -- the point behind the first interval is not in the set, and those in front of it are not
    have hbehind : itr.end_ + 1 ∉ pointsOf (itr :: rest) := by
      rintro ⟨a, ha, hn⟩
      unfold Interval.points at hn
      rw [Set.mem_Icc] at hn
      rcases List.mem_cons.mp ha with rfl | ha
      · omega
      · have hgap := hgaps a ha
        unfold Interval.Before at hgap
        omega
    have hfront : ∀ n ∈ pointsOf (itr :: rest), itr.start ≤ n := by
      rintro n ⟨a, ha, hn⟩
      unfold Interval.points at hn
      rw [Set.mem_Icc] at hn
      rcases List.mem_cons.mp ha with rfl | ha
      · exact hn.1
      · have hgap := hgaps a ha
        unfold Interval.Before at hgap
        omega
    unfold containsInterval
    split
    · next hin =>
        refine iff_of_true rfl fun n hstart hend => ⟨itr, List.mem_cons_self, ?_, ?_⟩
        · exact hin.1.trans hstart
        · exact hend.trans hin.2
    · next hout =>
        split
        · next hlt =>
            refine iff_of_false Bool.false_ne_true fun hall => ?_
            have hstart := hfront start (hall start (Nat.le_refl _) h)
            exact hbehind (hall _ (by omega) (by omega))
        · next hge =>
            rw [ih hrest]
            constructor
            · intro hall n hstart hend
              rw [pointsOf_cons]
              exact .inr (hall n hstart hend)
            · intro hall n hstart hend
              have hmem := hall n hstart hend
              rw [pointsOf_cons] at hmem
              rcases hmem with hmem | hmem
              · unfold Interval.points at hmem
                rw [Set.mem_Icc] at hmem
                exact absurd (hall _ (by omega) (by omega)) hbehind
              · exact hmem

/-! ### The set -/

structure IntervalSet where
  intervals : List Interval
  insertVersion : Nat
  apart : Apart intervals
  deriving DecidableEq

namespace IntervalSet

def empty : IntervalSet := ⟨[], 0, .nil⟩

def insert (s : IntervalSet) (interval : Interval) : IntervalSet where
  intervals := (insertInterval s.intervals interval).1
  insertVersion :=
    if (insertInterval s.intervals interval).2 then s.insertVersion + 1 else s.insertVersion
  apart := apart_insertInterval s.apart interval

def withdraw (s : IntervalSet) (interval : Interval) : IntervalSet where
  intervals := withdrawInterval s.intervals interval
  insertVersion := s.insertVersion
  apart := apart_withdrawInterval s.apart interval

def contains (s : IntervalSet) (start end_ : Nat) : Bool := containsInterval start end_ s.intervals

def points (s : IntervalSet) : Set Nat := pointsOf s.intervals

theorem points_insert (s : IntervalSet) (interval : Interval) :
    (s.insert interval).points = s.points ∪ interval.points :=
  points_insertInterval s.apart interval

theorem points_withdraw (s : IntervalSet) (interval : Interval) :
    (s.withdraw interval).points = s.points \ interval.points :=
  points_withdrawInterval s.apart interval

theorem insertVersion_insert (s : IntervalSet) (interval : Interval) :
    s.insertVersion < (s.insert interval).insertVersion ↔
      ∃ n ∈ interval.points, n ∉ s.points := by
  rw [points, ← insertInterval_changes s.apart]
  unfold insert
  dsimp only
  split
  · next h => exact iff_of_true (Nat.lt_succ_self _) h
  · next h => exact iff_of_false (Nat.lt_irrefl _) h

/-! ### Runs -/

inductive Op where
  | insert (interval : Interval)
  | withdraw (interval : Interval)
  deriving DecidableEq

def apply (s : IntervalSet) : Op → IntervalSet
  | .insert interval => s.insert interval
  | .withdraw interval => s.withdraw interval

/-- The points that have been inserted and not withdrawn since. -/
def pointsAfter (points : Set Nat) : List Op → Set Nat
  | [] => points
  | .insert interval :: ops => pointsAfter (points ∪ interval.points) ops
  | .withdraw interval :: ops => pointsAfter (points \ interval.points) ops

theorem points_foldl (ops : List Op) (s : IntervalSet) :
    (ops.foldl apply s).points = pointsAfter s.points ops := by
  induction ops generalizing s with
  | nil => rfl
  | cons op ops ih =>
    rw [List.foldl_cons, ih]
    cases op with
    | insert interval => rw [pointsAfter, apply, points_insert]
    | withdraw interval => rw [pointsAfter, apply, points_withdraw]

/-- After every sequence of operations: the intervals are apart, their points are those that were
inserted and not withdrawn since, `contains` says whether a range of points is among them, and the next
insertion changes the version exactly if it adds a point. -/
theorem intervalSet_exact (ops : List Op) :
    Apart (ops.foldl apply empty).intervals ∧
      (ops.foldl apply empty).points = pointsAfter ∅ ops ∧
      (∀ start end_, start ≤ end_ → ((ops.foldl apply empty).contains start end_ = true ↔
        ∀ n, start ≤ n → n ≤ end_ → n ∈ pointsAfter ∅ ops)) ∧
      ∀ interval : Interval, (ops.foldl apply empty).insertVersion <
          ((ops.foldl apply empty).insert interval).insertVersion ↔
        ∃ n ∈ interval.points, n ∉ pointsAfter ∅ ops := by
  have hpoints : (ops.foldl apply empty).points = pointsAfter ∅ ops := by
    rw [points_foldl]
    exact congrArg (pointsAfter · ops) pointsOf_nil
  refine ⟨(ops.foldl apply empty).apart, hpoints, fun start end_ h => ?_, fun interval => ?_⟩
  · rw [← hpoints]
    exact containsInterval_iff (ops.foldl apply empty).apart h
  · rw [← hpoints]
    exact insertVersion_insert _ _

end IntervalSet

end MasqueQuic
