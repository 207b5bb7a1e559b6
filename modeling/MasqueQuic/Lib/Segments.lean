/-
Segments of a sequence, and a list of them that is kept in normal form.

A segment is a run of elements with the position of its first one. `Segment.Of S`
says that it is a piece of the sequence `S`. A list of segments is in normal form
when it is sorted and no two neighbours touch (`Apart`) and none is empty; then it is
determined by the positions it covers.

`insert` adds a segment to such a list: what lies before it stays, what it touches
is joined with it, what lies behind stays. The rules say that the result covers both
and is in normal form again.
-/

import Mathlib.Data.List.Basic

namespace MasqueQuic

/-- Elements of a sequence from position `offset` on. -/
structure Segment (α : Type) where
  offset : Nat
  data : List α
  deriving DecidableEq

namespace Segment

variable {α : Type} {S : List α} {a b cur : Segment α} {segs : List (Segment α)} {i r : Nat}

/-- The position behind the last element. -/
def stop (s : Segment α) : Nat := s.offset + s.data.length

def Covers (s : Segment α) (i : Nat) : Prop := s.offset ≤ i ∧ i < s.stop

/-- The element at a position. -/
def Holds (s : Segment α) (i : Nat) (v : α) : Prop :=
  s.offset ≤ i ∧ s.data[i - s.offset]? = some v

/-- A piece of `S`. -/
def Of (S : List α) (s : Segment α) : Prop :=
  s.stop ≤ S.length ∧ s.data = (S.drop s.offset).take s.data.length

/-- Some segment of the list covers the position. -/
def Covered (segs : List (Segment α)) (i : Nat) : Prop := ∃ s ∈ segs, s.Covers i

/-- Sorted, and neighbours do not touch. -/
def Apart (segs : List (Segment α)) : Prop := segs.Pairwise fun a b => a.stop < b.offset

/-- The normal form, from position `r` on. -/
structure Normal (r : Nat) (segs : List (Segment α)) : Prop where
  apart : Apart segs
  nonempty : ∀ s ∈ segs, s.data ≠ []
  above : ∀ s ∈ segs, r ≤ s.offset

/-- `a`, and what `b` has behind it. -/
def join (a b : Segment α) : Segment α := ⟨a.offset, a.data ++ b.data.drop (a.stop - b.offset)⟩

/-- Put `cur` before a list that starts at or behind it, and take up what it reaches. -/
def absorb : Segment α → List (Segment α) → List (Segment α)
  | cur, [] => [cur]
  | cur, b :: rest =>
      if cur.stop < b.offset then cur :: b :: rest
      else if cur.stop ≤ b.stop then cur.join b :: rest
      else absorb cur rest

def insert (cur : Segment α) : List (Segment α) → List (Segment α)
  | [] => [cur]
  | b :: rest =>
      if b.stop < cur.offset then b :: insert cur rest
      else if b.offset ≤ cur.offset ∧ cur.stop ≤ b.stop then b :: rest
      else if cur.offset ≤ b.offset then absorb cur (b :: rest)
      else absorb (b.join cur) rest

/-- The elements that lie ready at position `r`. -/
def front (r : Nat) : List (Segment α) → List α
  | [] => []
  | s :: _ => if s.offset = r then s.data else []

/-- Take `n` of the elements that lie ready at `r` away. -/
def advance (n r : Nat) : List (Segment α) → List (Segment α)
  | [] => []
  | s :: rest =>
      if s.offset ≠ r then s :: rest
      else if s.data.length ≤ n then rest
      else ⟨s.offset + n, s.data.drop n⟩ :: rest

/-! ### Elements -/

theorem Holds.covers {v : α} (h : a.Holds i v) : a.Covers i := by
  obtain ⟨hle, hv⟩ := h
  have hlt := (List.getElem?_eq_some_iff.mp hv).1
  exact ⟨hle, by rw [stop]; omega⟩

/-- A segment in two parts. -/
theorem holds_append {offset : Nat} {front back : List α} {v : α} :
    Holds ⟨offset, front ++ back⟩ i v ↔
      Holds ⟨offset, front⟩ i v ∨ Holds ⟨offset + front.length, back⟩ i v := by
  unfold Holds
  dsimp only
  by_cases hi : i - offset < front.length
  · rw [List.getElem?_append_left hi]
    constructor
    · exact .inl
    · rintro (h | ⟨hle, -⟩)
      · exact h
      · omega
  · have hback : i - offset - front.length = i - (offset + front.length) := by omega
    have hfront : front[i - offset]? = none := List.getElem?_eq_none (Nat.le_of_not_lt hi)
    rw [List.getElem?_append_right (Nat.le_of_not_lt hi), hback, hfront]
    constructor
    · rintro ⟨hle, hv⟩
      exact .inr ⟨by omega, hv⟩
    · rintro (⟨-, hv⟩ | ⟨hle, hv⟩)
      · cases hv
      · exact ⟨by omega, hv⟩

/-! ### Joining -/

theorem length_pos_of_ne_nil (h : a.data ≠ []) : a.offset < a.stop :=
  Nat.lt_add_of_pos_right (List.length_pos_of_ne_nil h)

/-- Two segments that touch, the second one reaching further. -/
structure Joinable (a b : Segment α) : Prop where
  starts : a.offset ≤ b.offset
  touches : b.offset ≤ a.stop
  reaches : a.stop ≤ b.stop

theorem Joinable.stop_join (h : Joinable a b) : (a.join b).stop = b.stop := by
  have h1 := h.starts
  have h2 := h.touches
  have h3 := h.reaches
  simp only [stop, join, List.length_append, List.length_drop] at *
  omega

theorem Joinable.covers_join (h : Joinable a b) :
    (a.join b).Covers i ↔ a.Covers i ∨ b.Covers i := by
  have h1 := h.starts
  have h2 := h.touches
  have h3 := h.reaches
  have hoffset : (a.join b).offset = a.offset := rfl
  rw [Covers, Covers, Covers, h.stop_join, hoffset]
  omega

/-- Pieces of one sequence agree where they meet. -/
theorem Joinable.of_join (h : Joinable a b) (ha : a.Of S) (hb : b.Of S) : (a.join b).Of S := by
  refine ⟨Nat.le_trans (Nat.le_of_eq h.stop_join) hb.1, ?_⟩
  have h1 := h.starts
  have h2 := h.touches
  have h3 := h.reaches
  have hlen : (a.join b).data.length = a.data.length + (b.stop - a.stop) := by
    have hstop := h.stop_join
    simp only [stop] at hstop h3 ⊢
    have hoffset : (a.join b).offset = a.offset := rfl
    omega
  have hoffset : (a.join b).offset = a.offset := rfl
  rw [hlen, hoffset, List.take_add, List.drop_drop]
  have htail : b.data.drop (a.stop - b.offset) = (S.drop a.stop).take (b.stop - a.stop) := by
    rw [hb.2, List.drop_take, List.drop_drop]
    congr 1
    · simp only [stop] at *
      omega
    · congr 1
      omega
  change a.data ++ b.data.drop (a.stop - b.offset) = _
  rw [htail, ← ha.2]
  rfl

theorem join_ne_nil (ha : a.data ≠ []) : (a.join b).data ≠ [] := by
  simp [join, ha]

/-! ### Taking up what a segment reaches -/

theorem covered_cons : Covered (a :: segs) i ↔ a.Covers i ∨ Covered segs i := by
  simp [Covered]

theorem apart_cons : Apart (a :: segs) ↔ (∀ b ∈ segs, a.stop < b.offset) ∧ Apart segs :=
  List.pairwise_cons

theorem Normal.tail (h : Normal r (a :: segs)) : Normal r segs :=
  ⟨(apart_cons.mp h.apart).2, fun s hs => h.nonempty s (.tail _ hs),
    fun s hs => h.above s (.tail _ hs)⟩

theorem Normal.cons (hseg : Normal r segs) (ha : a.data ≠ []) (hr : r ≤ a.offset)
    (hapart : ∀ b ∈ segs, a.stop < b.offset) : Normal r (a :: segs) :=
  ⟨apart_cons.mpr ⟨hapart, hseg.apart⟩, List.forall_mem_cons.mpr ⟨ha, hseg.nonempty⟩,
    List.forall_mem_cons.mpr ⟨hr, hseg.above⟩⟩

/-- A segment that starts before the list and does not reach it. -/
theorem before_all (hsegs : Apart (b :: segs)) (hlt : cur.stop < b.offset) :
    ∀ s ∈ b :: segs, cur.stop < s.offset := by
  intro s hs
  rcases List.mem_cons.mp hs with rfl | hs
  · exact hlt
  · have hb := (apart_cons.mp hsegs).1 s hs
    have hle : b.offset ≤ b.stop := Nat.le_add_right _ _
    omega

theorem absorb_spec (hsegs : Normal r segs) (hcur : cur.data ≠ []) (hr : r ≤ cur.offset)
    (hstart : ∀ b ∈ segs, cur.offset ≤ b.offset) :
    Normal r (absorb cur segs) ∧
      (∀ i, Covered (absorb cur segs) i ↔ cur.Covers i ∨ Covered segs i) ∧
      (∀ s ∈ absorb cur segs, cur.offset ≤ s.offset) ∧
      (cur.Of S → (∀ s ∈ segs, s.Of S) → ∀ s ∈ absorb cur segs, s.Of S) := by
  induction segs with
  | nil =>
    refine ⟨hsegs.cons hcur hr nofun, fun i => covered_cons, ?_, fun hof _ => ?_⟩
    · simp [absorb]
    · simpa [absorb] using hof
  | cons b rest ih =>
    have hrest := hsegs.tail
    have hb := hstart b (.head _)
    rw [absorb]
    split
    · rename_i hlt
      refine ⟨hsegs.cons hcur hr (before_all hsegs.apart hlt), fun i => covered_cons, ?_,
        fun hof hall => List.forall_mem_cons.mpr ⟨hof, hall⟩⟩
      exact List.forall_mem_cons.mpr ⟨Nat.le_refl _, hstart⟩
    · rename_i hnlt
      split
      · rename_i hle
        have hjoin : Joinable cur b := ⟨hb, Nat.le_of_not_lt hnlt, hle⟩
        refine ⟨hrest.cons (join_ne_nil hcur) hr ?_, fun i => ?_, ?_, fun hof hall => ?_⟩
        · rw [hjoin.stop_join]
          exact (apart_cons.mp hsegs.apart).1
        · rw [covered_cons, covered_cons, hjoin.covers_join, or_assoc]
        · exact List.forall_mem_cons.mpr
            ⟨Nat.le_refl _, fun s hs => hstart s (.tail _ hs)⟩
        · obtain ⟨hofb, hofrest⟩ := List.forall_mem_cons.mp hall
          exact List.forall_mem_cons.mpr ⟨hjoin.of_join hof hofb, hofrest⟩
      · rename_i hnle
        obtain ⟨hnormal, hcovers, habove, hof⟩ := ih hrest fun s hs => hstart s (.tail _ hs)
        refine ⟨hnormal, fun i => ?_, habove, fun hofcur hall => ?_⟩
        · -- `b` lies inside `cur`.
          have hin : b.Covers i → cur.Covers i := by
            rintro ⟨h1, h2⟩
            exact ⟨by omega, by omega⟩
          rw [hcovers, covered_cons, ← or_assoc, or_iff_left_of_imp hin]
        · exact hof hofcur fun s hs => hall s (.tail _ hs)

/-! ### Insertion -/

/-- What ends before the new segment stays in front of it. -/
theorem insert_append {pre : List (Segment α)} (hpre : ∀ s ∈ pre, s.stop < cur.offset) :
    insert cur (pre ++ segs) = pre ++ insert cur segs := by
  induction pre with
  | nil => rfl
  | cons b pre ih =>
    obtain ⟨hb, hpre⟩ := List.forall_mem_cons.mp hpre
    rw [List.cons_append, insert, if_pos hb, ih hpre, List.cons_append]

theorem insert_spec (hsegs : Normal r segs) (hcur : cur.data ≠ []) (hr : r ≤ cur.offset) :
    Normal r (insert cur segs) ∧
      (∀ i, Covered (insert cur segs) i ↔ cur.Covers i ∨ Covered segs i) ∧
      (∀ s ∈ insert cur segs, cur.offset ≤ s.offset ∨ ∃ b ∈ segs, b.offset ≤ s.offset) ∧
      (cur.Of S → (∀ s ∈ segs, s.Of S) → ∀ s ∈ insert cur segs, s.Of S) := by
  induction segs with
  | nil =>
    refine ⟨hsegs.cons hcur hr nofun, fun i => covered_cons, ?_, fun hof _ => ?_⟩
    · simp [insert]
    · simpa [insert] using hof
  | cons b rest ih =>
    have hrest := hsegs.tail
    have hb := hsegs.nonempty b (.head _)
    have hbr := hsegs.above b (.head _)
    have hbehind := (apart_cons.mp hsegs.apart).1
    rw [insert]
    split
    · rename_i hlt
      obtain ⟨hnormal, hcovers, habove, hof⟩ := ih hrest
      refine ⟨hnormal.cons hb hbr fun s hs => ?_, fun i => ?_, fun s hs => ?_,
        fun hofcur hall => ?_⟩
      · rcases habove s hs with h | ⟨c, hc, h⟩
        · omega
        · have := hbehind c hc
          omega
      · rw [covered_cons, covered_cons, hcovers]
        exact or_left_comm
      · rcases List.mem_cons.mp hs with rfl | hs
        · exact .inr ⟨s, .head _, Nat.le_refl _⟩
        · rcases habove s hs with h | ⟨c, hc, h⟩
          · exact .inl h
          · exact .inr ⟨c, .tail _ hc, h⟩
      · obtain ⟨hofb, hofrest⟩ := List.forall_mem_cons.mp hall
        exact List.forall_mem_cons.mpr ⟨hofb, hof hofcur hofrest⟩
    · rename_i hnlt
      split
      · rename_i hsub
        refine ⟨hsegs, fun i => ?_, fun s hs => .inr ⟨s, hs, Nat.le_refl _⟩, fun _ hall => hall⟩
        have hin : cur.Covers i → b.Covers i := by
          rintro ⟨h1, h2⟩
          exact ⟨by omega, by omega⟩
        rw [covered_cons, ← or_assoc, or_iff_right_of_imp hin]
      · rename_i hnsub
        split
        · rename_i hle
          have hstart : ∀ s ∈ b :: rest, cur.offset ≤ s.offset := by
            intro s hs
            rcases List.mem_cons.mp hs with rfl | hs
            · exact hle
            · have h1 := hbehind s hs
              have h2 := length_pos_of_ne_nil hb
              omega
          obtain ⟨hnormal, hcovers, habove, hof⟩ := absorb_spec (S := S) hsegs hcur hr hstart
          exact ⟨hnormal, hcovers, fun s hs => .inl (habove s hs), hof⟩
        · rename_i hnle
          have hjoin : Joinable b cur := ⟨by omega, by omega, by omega⟩
          have hstart : ∀ s ∈ rest, (b.join cur).offset ≤ s.offset := by
            intro s hs
            have h1 := hbehind s hs
            have h2 := length_pos_of_ne_nil hb
            change b.offset ≤ s.offset
            omega
          obtain ⟨hnormal, hcovers, habove, hof⟩ :=
            absorb_spec (S := S) hrest (join_ne_nil (b := cur) hb) hbr hstart
          refine ⟨hnormal, fun i => ?_, fun s hs => .inr ⟨b, .head _, habove s hs⟩,
            fun hofcur hall => ?_⟩
          · rw [hcovers, hjoin.covers_join, covered_cons, or_comm (a := b.Covers i), or_assoc]
          · obtain ⟨hofb, hofrest⟩ := List.forall_mem_cons.mp hall
            exact hof (hjoin.of_join hofb hofcur) hofrest

/-! ### Taking elements from the front -/

variable {n : Nat}

theorem Normal.mono {r' : Nat} (h : Normal r segs) (hr : ∀ s ∈ segs, r' ≤ s.offset) :
    Normal r' segs := ⟨h.apart, h.nonempty, hr⟩

/-- A normal form that covers nothing from its lower end on is empty. -/
theorem Normal.eq_nil (h : Normal r segs) (hcovered : ∀ i, Covered segs i → i < r) : segs = [] := by
  cases segs with
  | nil => rfl
  | cons a segs =>
    have h1 := h.above a (.head _)
    have h2 := length_pos_of_ne_nil (h.nonempty a (.head _))
    have h3 := hcovered a.offset (covered_cons.mpr (.inl ⟨Nat.le_refl _, h2⟩))
    omega

/-- Everything behind the first segment starts behind it. -/
theorem Normal.lt_offset (h : Normal r (a :: segs)) : ∀ s ∈ segs, r + a.data.length < s.offset := by
  intro s hs
  have h1 := (apart_cons.mp h.apart).1 s hs
  have h2 := h.above a (.head _)
  simp only [stop] at h1
  omega

/-- A normal form that covers exactly the positions from `r` to `n` is one segment. -/
theorem Normal.eq_singleton (h : Normal r segs) (hr : r < n)
    (hall : ∀ i, r ≤ i → i < n → Covered segs i) (hlt : ∀ i, Covered segs i → i < n) :
    ∃ a, segs = [a] ∧ a.offset = r ∧ a.stop = n := by
  cases segs with
  | nil =>
    obtain ⟨s, hs, -⟩ := hall r (Nat.le_refl r) hr
    cases hs
  | cons a segs =>
    have hbehind := (apart_cons.mp h.apart).1
    have hpos := length_pos_of_ne_nil (h.nonempty a (.head _))
    have habove := h.above a (.head _)
    have hoffset : a.offset = r := by
      rcases covered_cons.mp (hall r (Nat.le_refl r) hr) with ⟨hle, -⟩ | ⟨s, hs, hle, -⟩
      · omega
      · have := hbehind s hs
        omega
    have hstop : a.stop = n := by
      have hlast := hlt (a.stop - 1) (covered_cons.mpr (.inl ⟨by omega, by omega⟩))
      by_contra hne
      rcases covered_cons.mp (hall a.stop (by omega) (by omega)) with ⟨-, h2⟩ | ⟨s, hs, h1, -⟩
      · omega
      · have := hbehind s hs
        omega
    refine ⟨a, ?_, hoffset, hstop⟩
    cases segs with
    | nil => rfl
    | cons b segs =>
      -- Behind `n` there is nothing.
      have hb := length_pos_of_ne_nil (h.nonempty b (.tail _ (.head _)))
      have h1 := hbehind b (.head _)
      have h2 := hlt b.offset ⟨b, .tail _ (.head _), Nat.le_refl _, hb⟩
      omega

/-- After the elements in front are taken, the rest is in normal form. -/
theorem normal_advance (h : Normal r segs) (hn : n ≤ (front r segs).length) :
    Normal (r + n) (advance n r segs) := by
  cases segs with
  | nil => exact ⟨.nil, nofun, nofun⟩
  | cons a segs =>
    have hlt := h.lt_offset
    rw [advance]
    rw [front] at hn
    split
    · rename_i hne
      rw [if_neg hne] at hn
      have hzero : n = 0 := by simpa using hn
      rw [hzero]
      exact h
    · rename_i heq
      rw [if_pos (not_not.mp heq)] at hn
      split
      · exact h.tail.mono fun s hs => by
          have := hlt s hs
          omega
      · rename_i hlen
        have heq := not_not.mp heq
        refine (h.tail.mono fun s hs => ?_).cons ?_ ?_ ?_
        · have := hlt s hs
          omega
        · simpa using hlen
        · change r + n ≤ a.offset + n
          omega
        · intro s hs
          have := hlt s hs
          simp only [stop, List.length_drop]
          omega

/-- What lies ready is taken off, and nothing else. -/
theorem covered_advance (h : Normal r segs) (hn : n ≤ (front r segs).length) :
    Covered segs i ↔ (r ≤ i ∧ i < r + n) ∨ Covered (advance n r segs) i := by
  cases segs with
  | nil =>
    have hzero : n = 0 := by simpa [front] using hn
    simp [advance, hzero, Covered]
  | cons a segs =>
    rw [advance]
    rw [front] at hn
    split
    · rename_i hne
      rw [if_neg hne] at hn
      have hzero : n = 0 := by simpa using hn
      rw [hzero]
      constructor
      · exact .inr
      · rintro (h | h)
        · omega
        · exact h
    · rename_i heq
      have heq := not_not.mp heq
      rw [if_pos heq] at hn
      split
      · rw [covered_cons]
        simp only [Covers, stop]
        have : n = a.data.length := by omega
        rw [heq, this]
      · rw [covered_cons, covered_cons, ← or_assoc]
        simp only [Covers, stop, List.length_drop]
        have : (a.offset ≤ i ∧ i < a.offset + a.data.length) ↔
            (r ≤ i ∧ i < r + n) ∨ a.offset + n ≤ i ∧ i < a.offset + n + (a.data.length - n) := by
          omega
        rw [this]

/-- Nothing is ready exactly when the position is not covered. -/
theorem front_eq_nil_iff (h : Normal r segs) : front r segs = [] ↔ ¬ Covered segs r := by
  cases segs with
  | nil => simp [front, Covered]
  | cons a segs =>
    have hlt := h.lt_offset
    have hne := h.nonempty a (.head _)
    have hpos := length_pos_of_ne_nil hne
    rw [front, covered_cons]
    split
    · rename_i heq
      have hcov : a.Covers r := ⟨by omega, by omega⟩
      simp [hne, hcov]
    · rename_i hoff
      have habove := h.above a (.head _)
      refine ⟨fun _ => ?_, fun _ => rfl⟩
      rintro (⟨h1, _⟩ | ⟨s, hs, h1, _⟩)
      · omega
      · have := hlt s hs
        omega

/-- Once all that is ready is taken, nothing is ready. -/
theorem not_covered_advance (h : Normal r segs) :
    ¬ Covered (advance (front r segs).length r segs) (r + (front r segs).length) := by
  cases segs with
  | nil => simp [advance, Covered]
  | cons a segs =>
    have hlt := h.lt_offset
    rw [advance, front]
    split
    · rename_i hne
      exact (front_eq_nil_iff h).mp (by rw [front, if_neg hne])
    · rename_i heq
      rw [if_pos (not_not.mp heq), if_pos (Nat.le_refl _)]
      rintro ⟨s, hs, h1, _⟩
      have := hlt s hs
      omega

/-- What lies ready is the next piece of the sequence. -/
theorem front_of (hof : ∀ s ∈ segs, s.Of S) :
    front r segs = (S.drop r).take (front r segs).length := by
  cases segs with
  | nil => rfl
  | cons a segs =>
    rw [front]
    split
    · rename_i heq
      rw [← heq]
      exact (hof a (.head _)).2
    · rfl

theorem length_front_le (hof : ∀ s ∈ segs, s.Of S) (hr : r ≤ S.length) :
    r + (front r segs).length ≤ S.length := by
  cases segs with
  | nil => exact hr
  | cons a segs =>
    rw [front]
    split
    · rename_i heq
      rw [← heq]
      exact (hof a (.head _)).1
    · exact hr

theorem of_advance (hof : ∀ s ∈ segs, s.Of S) : ∀ s ∈ advance n r segs, s.Of S := by
  cases segs with
  | nil => exact nofun
  | cons a segs =>
    obtain ⟨ha, hsegs⟩ := List.forall_mem_cons.mp hof
    rw [advance]
    split
    · exact hof
    · split
      · exact hsegs
      · rename_i hlen
        refine List.forall_mem_cons.mpr ⟨⟨?_, ?_⟩, hsegs⟩
        · have := ha.1
          simp only [stop, List.length_drop] at this ⊢
          omega
        · have hdata := ha.2
          change a.data.drop n = (S.drop (a.offset + n)).take (a.data.drop n).length
          rw [List.length_drop, ← List.drop_drop, ← List.drop_take, ← hdata]

end Segment

end MasqueQuic
