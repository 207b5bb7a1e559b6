/-
The loss buffer when data is acknowledged that was given up for lost.

`removeFromLossBuffer` looks for the first entry that contains the range or lies inside it, and
cuts the range out of that entry; an entry that overlaps the range in part stays as it is. What
lies outside the range is kept, and the buffer stays sorted and disjoint. The entry is dropped when
nothing is left of its data and it agrees with the frame about the FIN: if the frame carried the
FIN and the entry does not, an entry stays behind that has neither data nor the FIN.
-/

import MasqueQuic.Quic.ReadBuffer
import MasqueQuic.Quic.SendTracking

namespace MasqueQuic

/-- One of the two cases of containment. -/
def StreamBuffer.Hit (b : StreamBuffer) (offset len : Nat) : Prop :=
  (offset ≥ b.offset ∧ offset + len ≤ b.endOffset) ∨
    (b.offset ≥ offset ∧ b.endOffset ≤ offset + len)

instance (b : StreamBuffer) (offset len : Nat) : Decidable (b.Hit offset len) :=
  inferInstanceAs (Decidable (_ ∨ _))

/-- What stays of an entry and the entries around it, without what is split off in front. -/
def leftOf (before after : List StreamBuffer) (back : StreamBuffer) (eof : Bool) :
    List StreamBuffer :=
  if back.data.empty ∧ back.eof = eof then before ++ after else before ++ back :: after

/-- The range is cut out of the entry `b`. -/
def cutFrom (before after : List StreamBuffer) (b : StreamBuffer) (offset len : Nat) (eof : Bool) :
    List StreamBuffer :=
  (cutOut b offset len).2.elim (leftOf before after (cutOut b offset len).1 eof)
    (insertIntoLossBuffer (leftOf before after (cutOut b offset len).1 eof))

/-- A byte that waits to be sent again. -/
def HoldsByte (loss : List StreamBuffer) (x : Nat) (v : UInt8) : Prop :=
  ∃ b ∈ loss, b.seg.Holds x v

/-- The FIN waits to be sent again, behind the data up to `n`. -/
def HoldsFin (loss : List StreamBuffer) (n : Nat) : Prop :=
  ∃ b ∈ loss, b.eof = true ∧ b.endOffset = n

variable {loss others before after entries entries' : List StreamBuffer}
  {b buf front : StreamBuffer} {offset len stop x : Nat} {v : UInt8} {eof : Bool}

/-! ### Which entry is hit -/

theorem StreamBuffer.Hit.offset_le (h : b.Hit offset len) : b.offset ≤ offset + len := by
  unfold Hit endOffset at h
  omega

theorem removeLoop_cases (hsorted : loss.Pairwise fun a b => a.offset ≤ b.offset)
    (before : List StreamBuffer) (offset len : Nat) (eof : Bool) :
    ((∀ b ∈ loss, ¬ b.Hit offset len) ∧ removeLoop offset len eof before loss = before ++ loss) ∨
      ∃ mid b after, loss = mid ++ b :: after ∧ b.Hit offset len ∧
        (∀ a ∈ mid, ¬ a.Hit offset len) ∧
        removeLoop offset len eof before loss = cutFrom (before ++ mid) after b offset len eof := by
  induction loss generalizing before with
  | nil => exact .inl ⟨by simp, by simp [removeLoop]⟩
  | cons b rest ih =>
    obtain ⟨hfirst, hrest⟩ := List.pairwise_cons.mp hsorted
    rw [removeLoop]
    by_cases hbehind : b.offset > offset + len
    · rw [if_pos hbehind]
      refine .inl ⟨List.forall_mem_cons.mpr ⟨fun hhit => ?_, fun a ha hhit => ?_⟩, rfl⟩
      · exact absurd hhit.offset_le (Nat.not_le_of_lt hbehind)
      · exact absurd hhit.offset_le (Nat.not_le_of_lt (hbehind.trans_le (hfirst a ha)))
    · rw [if_neg hbehind]
      by_cases hhit : b.Hit offset len
      · refine .inr ⟨[], b, rest, rfl, hhit, by simp, ?_⟩
        rw [List.append_nil]
        exact if_pos hhit
      · have hnext : (if (offset ≥ b.offset ∧ offset + len ≤ b.endOffset) ∨
            (b.offset ≥ offset ∧ b.endOffset ≤ offset + len) then
              cutFrom before rest b offset len eof
            else removeLoop offset len eof (before ++ [b]) rest) =
            removeLoop offset len eof (before ++ [b]) rest := if_neg hhit
        rcases ih hrest (before ++ [b]) with ⟨hnone, hsame⟩ |
          ⟨mid, b', after, hsplit, hhit', hmid, hcut⟩
        · refine .inl ⟨List.forall_mem_cons.mpr ⟨hhit, hnone⟩, ?_⟩
          exact (hnext.trans hsame).trans (List.append_cons before b rest).symm
        · refine .inr ⟨b :: mid, b', after, ?_, hhit', List.forall_mem_cons.mpr ⟨hhit, hmid⟩, ?_⟩
          · rw [hsplit, List.cons_append]
          · rw [List.append_cons before b mid, ← hcut]
            exact hnext

/-- Nothing is hit, or the first entry that is hit is cut. -/
theorem removeFromLossBuffer_cases (hsorted : loss.Pairwise fun a b => a.offset ≤ b.offset)
    (offset len : Nat) (eof : Bool) :
    ((0 < len → ∀ b ∈ loss, ¬ b.Hit offset len) ∧
        removeFromLossBuffer loss offset len eof = loss) ∨
      ∃ before b after, loss = before ++ b :: after ∧ 0 < len ∧ b.Hit offset len ∧
        (∀ a ∈ before, ¬ a.Hit offset len) ∧
        removeFromLossBuffer loss offset len eof = cutFrom before after b offset len eof := by
  unfold removeFromLossBuffer
  by_cases hzero : len = 0
  · rw [if_pos hzero]
    exact .inl ⟨fun hpos => absurd hzero hpos.ne', rfl⟩
  · rw [if_neg hzero]
    rcases removeLoop_cases hsorted [] offset len eof with
      ⟨hnone, hsame⟩ | ⟨mid, b, after, hsplit, hhit, hmid, hcut⟩
    · exact .inl ⟨fun _ => hnone, hsame⟩
    · exact .inr ⟨mid, b, after, hsplit, Nat.pos_of_ne_zero hzero, hhit, hmid, hcut⟩

/-! ### The two parts of the entry -/

/-- What is left behind the range ends where the entry did, what is left in front of it begins
where the entry did. -/
structure CutSpec (b : StreamBuffer) (offset : Nat) (r : StreamBuffer × Option StreamBuffer) :
    Prop where
  endOffset : r.1.endOffset = b.endOffset
  eof : r.1.eof = b.eof
  offset_le : b.offset ≤ r.1.offset
  front : ∀ front ∈ r.2, front.offset = b.offset ∧ front.eof = false ∧ front.endOffset = offset ∧
    b.offset < offset ∧ offset ≤ r.1.offset

theorem cutOut_spec (hhit : b.Hit offset len) : CutSpec b offset (cutOut b offset len) := by
  have hrange : offset ≤ b.offset ∨ offset ≤ b.endOffset := by
    unfold StreamBuffer.Hit at hhit
    omega
  obtain ⟨hend, heof, hfront⟩ := @SendStream.cutOut_endOffset b offset len hrange
  refine ⟨hend, heof, ?_, fun front hmem => ?_⟩
  · change b.offset ≤ b.offset + (offset - b.offset) + _
    omega
  · obtain ⟨-, hnofin⟩ := hfront front hmem
    unfold cutOut at hmem ⊢
    by_cases hcut : offset - b.offset > 0
    · simp only [if_pos hcut] at hmem ⊢
      cases hmem
      refine ⟨rfl, hnofin, ?_, by omega, by omega⟩
      change b.offset + (b.data.splitAtMost (offset - b.offset)).1.bytes.length = offset
      rw [BufQueue.length_splitAtMost_fst]
      unfold StreamBuffer.endOffset at hrange
      omega
    · simp only [if_neg hcut] at hmem
      cases hmem

/-- The bytes outside the range are in one of the two. -/
theorem cutOut_holds (hhit : b.Hit offset len) (hout : x < offset ∨ offset + len ≤ x) :
    b.seg.Holds x v ↔ (cutOut b offset len).1.seg.Holds x v ∨
      ∃ front ∈ (cutOut b offset len).2, front.seg.Holds x v := by
  obtain ⟨hfront, hback⟩ := b.data.splitAtMost_bytes (offset - b.offset)
  have hlen := b.data.length_bytes
  -- The entry in three parts: in front of the range, in the range and behind it.
  have hparts : b.seg.Holds x v ↔
      Segment.Holds ⟨b.offset, b.data.bytes.take (offset - b.offset)⟩ x v ∨
      (Segment.Holds ⟨b.offset + (b.data.bytes.take (offset - b.offset)).length,
        (b.data.bytes.drop (offset - b.offset)).take len⟩ x v ∨
      Segment.Holds ⟨b.offset + (b.data.bytes.take (offset - b.offset)).length +
        ((b.data.bytes.drop (offset - b.offset)).take len).length,
        (b.data.bytes.drop (offset - b.offset)).drop len⟩ x v) := by
    rw [← Segment.holds_append, ← Segment.holds_append, List.take_append_drop,
      List.take_append_drop]
    rfl
  have hinside : ¬ Segment.Holds ⟨b.offset + (b.data.bytes.take (offset - b.offset)).length,
      (b.data.bytes.drop (offset - b.offset)).take len⟩ x v := by
    intro hmid
    obtain ⟨hfrom, hto⟩ := hmid.covers
    unfold StreamBuffer.Hit StreamBuffer.endOffset at hhit
    simp only [Segment.stop, List.length_take, List.length_drop] at hfrom hto
    omega
  have hbehind : (cutOut b offset len).1.seg =
      ⟨b.offset + (b.data.bytes.take (offset - b.offset)).length +
        ((b.data.bytes.drop (offset - b.offset)).take len).length,
        (b.data.bytes.drop (offset - b.offset)).drop len⟩ := by
    unfold StreamBuffer.Hit StreamBuffer.endOffset at hhit
    unfold cutOut StreamBuffer.seg
    by_cases hcut : offset - b.offset > 0
    · simp only [if_pos hcut, BufQueue.bytes_trimStartAtMost, hback, BufQueue.trimStartAtMost_fst,
        BufQueue.chainLength_splitAtMost_snd, List.length_take, List.length_drop, hlen]
      congr 1
      omega
    · have hzero : offset - b.offset = 0 := by omega
      simp only [BufQueue.bytes_trimStartAtMost, BufQueue.trimStartAtMost_fst, hzero,
        List.drop_zero, List.length_take, hlen]
      congr 1
  rw [hparts, or_iff_right hinside, hbehind, or_comm]
  refine or_congr_right ?_
  unfold cutOut
  by_cases hcut : offset - b.offset > 0
  · have hseg : (StreamBuffer.new (b.data.splitAtMost (offset - b.offset)).1 b.offset false).seg =
        ⟨b.offset, b.data.bytes.take (offset - b.offset)⟩ := congrArg (Segment.mk b.offset) hfront
    simp only [if_pos hcut, Option.mem_def, Option.some.injEq, exists_eq_left']
    rw [hseg]
  · have hzero : offset - b.offset = 0 := by omega
    simp [hzero, Segment.Holds]

/-! ### Inserting -/

theorem StreamBuffer.holds_join {last : StreamBuffer} (hjoin : last.endOffset = buf.offset) :
    (last.join buf).seg.Holds x v ↔ last.seg.Holds x v ∨ buf.seg.Holds x v := by
  have hseg : (last.join buf).seg = ⟨last.offset, last.data.bytes ++ buf.data.bytes⟩ :=
    congrArg (Segment.mk last.offset) (BufQueue.bytes_append _ _)
  have hlen : last.offset + last.data.bytes.length = buf.offset := by
    rw [BufQueue.length_bytes, ← hjoin, endOffset]
  rw [hseg, Segment.holds_append, hlen]
  rfl

theorem holdsByte_cons :
    HoldsByte (b :: entries) x v ↔ b.seg.Holds x v ∨ HoldsByte entries x v :=
  List.exists_mem_cons_iff _ _ _

theorem holdsByte_append :
    HoldsByte (entries ++ entries') x v ↔ HoldsByte entries x v ∨ HoldsByte entries' x v := by
  unfold HoldsByte
  simp only [List.mem_append, or_and_right, exists_or]

theorem holdsByte_middle :
    HoldsByte (before ++ b :: after) x v ↔ b.seg.Holds x v ∨ HoldsByte (before ++ after) x v := by
  rw [holdsByte_append, holdsByte_cons, holdsByte_append, or_left_comm]

theorem holdsByte_insertIntoLossBuffer :
    HoldsByte (insertIntoLossBuffer loss buf) x v ↔ HoldsByte loss x v ∨ buf.seg.Holds x v := by
  rcases insertIntoLossBuffer_cases loss buf with ⟨before, after, rfl, hinsert⟩ |
    ⟨before, last, after, rfl, hjoin, hinsert⟩
  · rw [hinsert, holdsByte_middle, or_comm]
  · rw [hinsert, holdsByte_middle, holdsByte_middle, StreamBuffer.holds_join hjoin, or_right_comm]

/-- An entry that the new one does not continue stays. -/
theorem mem_insertIntoLossBuffer (hb : b ∈ loss) (hend : b.endOffset ≠ buf.offset) :
    b ∈ insertIntoLossBuffer loss buf := by
  rcases insertIntoLossBuffer_cases loss buf with ⟨before, after, rfl, hinsert⟩ |
    ⟨before, last, after, rfl, hjoin, hinsert⟩
  · rw [hinsert]
    rcases List.mem_append.mp hb with hb | hb
    · exact List.mem_append_left _ hb
    · exact List.mem_append_right _ (List.mem_cons_of_mem buf hb)
  · rw [hinsert]
    rcases List.mem_append.mp hb with hb | hb
    · exact List.mem_append_left _ hb
    · rcases List.mem_cons.mp hb with rfl | hb
      · exact absurd hjoin hend
      · exact List.mem_append_right _ (List.mem_cons_of_mem _ hb)

/-! ### What removal keeps -/

theorem leftOf_cases (before after : List StreamBuffer) (back : StreamBuffer) (eof : Bool) :
    (back.data.empty = true ∧ back.eof = eof ∧
        leftOf before after back eof = before ++ after) ∨
      (¬ (back.data.empty = true ∧ back.eof = eof) ∧
        leftOf before after back eof = before ++ back :: after) := by
  unfold leftOf
  by_cases hdrop : back.data.empty = true ∧ back.eof = eof
  · rw [if_pos hdrop]
    exact .inl ⟨hdrop.1, hdrop.2, rfl⟩
  · rw [if_neg hdrop]
    exact .inr ⟨hdrop, rfl⟩

theorem StreamBuffer.not_holds_of_empty (hempty : b.data.empty = true) : ¬ b.seg.Holds x v := by
  rintro ⟨-, hv⟩
  rw [seg, BufQueue.empty_iff.mp hempty] at hv
  cases hv

theorem holdsByte_leftOf {back : StreamBuffer} :
    HoldsByte (leftOf before after back eof) x v ↔
      back.seg.Holds x v ∨ HoldsByte (before ++ after) x v := by
  rcases leftOf_cases before after back eof with ⟨hempty, -, hleft⟩ | ⟨-, hleft⟩
  · rw [hleft, or_iff_right (StreamBuffer.not_holds_of_empty hempty)]
  · rw [hleft, holdsByte_middle]

/-- Outside the range every byte stays, and none is added. -/
theorem holdsByte_cutFrom (hhit : b.Hit offset len) (hout : x < offset ∨ offset + len ≤ x) :
    HoldsByte (cutFrom before after b offset len eof) x v ↔
      HoldsByte (before ++ b :: after) x v := by
  rw [holdsByte_middle, cutOut_holds hhit hout]
  unfold cutFrom
  cases (cutOut b offset len).2 with
  | none => simp [holdsByte_leftOf]
  | some front =>
    rw [Option.elim_some, holdsByte_insertIntoLossBuffer, holdsByte_leftOf]
    simp only [Option.mem_def, Option.some.injEq, exists_eq_left']
    exact or_right_comm

theorem holdsByte_removeFromLossBuffer (hsorted : loss.Pairwise fun a b => a.offset ≤ b.offset)
    (hout : x < offset ∨ offset + len ≤ x) :
    HoldsByte (removeFromLossBuffer loss offset len eof) x v ↔ HoldsByte loss x v := by
  rcases removeFromLossBuffer_cases hsorted offset len eof with
    ⟨-, hsame⟩ | ⟨before, b, after, rfl, -, hhit, -, hcut⟩
  · rw [hsame]
  · rw [hcut, holdsByte_cutFrom hhit hout]

/-- What is put in front does not take up an entry that ends elsewhere. -/
theorem mem_cutFrom {a : StreamBuffer} (hhit : b.Hit offset len)
    (ha : a ∈ leftOf before after (cutOut b offset len).1 eof)
    (hend : b.offset < offset → a.endOffset ≠ b.offset) :
    a ∈ cutFrom before after b offset len eof := by
  have hspec := cutOut_spec hhit
  unfold cutFrom
  cases hfront : (cutOut b offset len).2 with
  | none => exact ha
  | some front =>
    obtain ⟨hoffset, -, -, hlt, -⟩ := hspec.front front hfront
    refine mem_insertIntoLossBuffer ha ?_
    rw [hoffset]
    exact hend hlt

/-- The part behind the range ends behind the place where the part in front begins. -/
theorem CutSpec.endOffset_ne {r : StreamBuffer × Option StreamBuffer} (h : CutSpec b offset r)
    (hle : offset ≤ b.endOffset) (hlt : b.offset < offset) : r.1.endOffset ≠ b.offset := by
  rw [h.endOffset]
  omega

theorem StreamBuffer.Hit.le_endOffset (h : b.Hit offset len) (hlt : b.offset < offset) :
    offset ≤ b.endOffset := by
  unfold Hit at h
  omega

theorem Laid.middle (h : Laid (others ++ (before ++ b :: after)) stop) :
    Laid (b :: (others ++ (before ++ after))) stop := by
  refine h.perm ?_
  rw [← List.append_assoc, ← List.append_assoc]
  exact List.perm_middle

/-- Removing a range without the FIN leaves the FIN. -/
theorem holdsFin_cutFrom {n : Nat} (h : Laid (others ++ (before ++ b :: after)) stop)
    (hhit : b.Hit offset len) (hfin : HoldsFin (before ++ b :: after) n) :
    HoldsFin (cutFrom before after b offset len false) n := by
  have hspec := cutOut_spec hhit
  obtain ⟨a, ha, heof, hend⟩ := hfin
  have hcases := leftOf_cases before after (cutOut b offset len).1 false
  by_cases hself : a = b
  · subst hself
    refine ⟨(cutOut a offset len).1, mem_cutFrom hhit ?_ fun hlt => ?_, ?_, ?_⟩
    · rcases hcases with ⟨-, hnofin, -⟩ | ⟨-, hleft⟩
      · rw [hspec.eof, heof] at hnofin
        cases hnofin
      · rw [hleft]
        exact List.mem_append_right _ List.mem_cons_self
    · exact hspec.endOffset_ne (hhit.le_endOffset hlt) hlt
    · rw [hspec.eof, heof]
    · rw [hspec.endOffset, hend]
  · have hmem : a ∈ before ++ after := by
      rw [List.mem_append, List.mem_cons] at ha
      rw [List.mem_append]
      exact ha.imp_right fun hrest => hrest.resolve_left hself
    refine ⟨a, mem_cutFrom hhit ?_ fun _ hmeet => ?_, heof, hend⟩
    · rcases hcases with ⟨-, -, hleft⟩ | ⟨-, hleft⟩
      · rw [hleft]
        exact hmem
      · rw [hleft, List.mem_append, List.mem_cons]
        exact (List.mem_append.mp hmem).imp_right .inr
    · -- Then both would cover the place where `b` begins.
      have hb := h.middle.solid b List.mem_cons_self
      have hout := h.middle.disjoint (List.mem_append_right others hmem) ⟨le_rfl, hb⟩
      rw [StreamBuffer.stop, if_pos heof, hmeet] at hout
      unfold StreamBuffer.endOffset at hmeet
      omega

/-! ### What stays covered -/

/-- An entry is replaced by pieces of it. -/
theorem Laid.pieces (h : Laid (b :: entries) stop)
    (hcover : ∀ x, coverage entries' x ≤ if b.covers x then 1 else 0)
    (hpieces : ∀ p ∈ entries', p.offset < p.stop ∧ p.stop ≤ b.stop) :
    Laid (entries' ++ entries) stop where
  solid p hp := by
    rcases List.mem_append.mp hp with hp | hp
    · exact (hpieces p hp).1
    · exact h.solid p (List.mem_cons_of_mem b hp)
  below p hp := by
    rcases List.mem_append.mp hp with hp | hp
    · exact (hpieces p hp).2.trans (h.below b List.mem_cons_self)
    · exact h.below p (List.mem_cons_of_mem b hp)
  apart x := by
    have hone := h.apart x
    have hpiece := hcover x
    rw [coverage_cons] at hone
    rw [coverage_append]
    omega

/-- Sorted entries that lie apart follow each other. -/
theorem Laid.follow (h : Laid loss stop) (hsorted : loss.Pairwise fun a b => a.offset ≤ b.offset) :
    loss.Pairwise fun a b => a.stop ≤ b.offset := by
  induction loss with
  | nil => exact .nil
  | cons b rest ih =>
    obtain ⟨hfirst, hrest⟩ := List.pairwise_cons.mp hsorted
    have hbehind := ih (h.sublist (List.sublist_cons_self b rest)) hrest
    refine List.pairwise_cons.mpr ⟨fun a ha => ?_, hbehind⟩
    by_contra hlt
    have hle := hfirst a ha
    have hsolid := h.solid a (List.mem_cons_of_mem b ha)
    have hout := h.disjoint (x := a.offset) ha ⟨hle, by omega⟩
    omega

/-- The part in front joins the lost entries. -/
theorem Laid.insertFront {front : Option StreamBuffer}
    (h : Laid (front.toList ++ (others ++ loss)) stop) :
    Laid (others ++ front.elim loss (MasqueQuic.insertIntoLossBuffer loss)) stop := by
  cases front with
  | none => exact h
  | some front => exact @Laid.insertIntoLossBuffer front stop loss others h

section CutSpec

variable {r : StreamBuffer × Option StreamBuffer}

theorem CutSpec.stop_eq (h : CutSpec b offset r) : r.1.stop = b.stop := by
  unfold StreamBuffer.stop
  rw [h.endOffset, h.eof]

theorem CutSpec.front_stop (h : CutSpec b offset r) (hmem : front ∈ r.2) : front.stop = offset := by
  obtain ⟨-, hnofin, hend, -, -⟩ := h.front front hmem
  unfold StreamBuffer.stop
  rw [hnofin, hend]
  rfl

theorem CutSpec.le_stop (h : CutSpec b offset r) : r.1.offset ≤ b.stop := by
  rw [← h.stop_eq]
  unfold StreamBuffer.stop StreamBuffer.endOffset
  omega

/-- The two parts do not cover anything else, and nothing twice. -/
theorem CutSpec.coverage_le (h : CutSpec b offset r) (x : Nat) :
    coverage r.2.toList x + (if r.1.covers x then 1 else 0) ≤ if b.covers x then 1 else 0 := by
  have hle := h.offset_le
  have hstop := h.stop_eq
  have hback : (if r.1.covers x then 1 else 0) ≤ if b.covers x then 1 else 0 := by
    simp only [StreamBuffer.covers, decide_eq_true_eq]
    split <;> split <;> omega
  cases hfront : r.2 with
  | none =>
    rw [Option.toList_none, coverage_nil, Nat.zero_add]
    exact hback
  | some front =>
    obtain ⟨hoffset, -, -, hlt, hbehind⟩ := h.front front hfront
    have hend := h.front_stop hfront
    have hbelow := h.le_stop
    rw [Option.toList_some, coverage_cons, coverage_nil, Nat.zero_add]
    simp only [StreamBuffer.covers, decide_eq_true_eq]
    split <;> split <;> split <;> omega

theorem CutSpec.front_solid (h : CutSpec b offset r) :
    ∀ p ∈ r.2.toList, p.offset < p.stop ∧ p.stop ≤ b.stop := by
  intro p hp
  have hmem := Option.mem_toList.mp hp
  obtain ⟨hoffset, -, -, hlt, hbehind⟩ := h.front p hmem
  have hend := h.front_stop hmem
  have hbelow := h.le_stop
  omega

end CutSpec

theorem Laid.cutFrom (h : Laid (others ++ (before ++ b :: after)) stop) (hhit : b.Hit offset len)
    (hfin : eof = true → b.eof = true) :
    Laid (others ++ MasqueQuic.cutFrom before after b offset len eof) stop := by
  have hspec := cutOut_spec hhit
  -- The part that is kept covers something.
  have hsolid : ¬ ((cutOut b offset len).1.data.empty = true ∧ (cutOut b offset len).1.eof = eof) →
      (cutOut b offset len).1.offset < (cutOut b offset len).1.stop := by
    intro hkept
    unfold StreamBuffer.stop StreamBuffer.endOffset
    by_cases hempty : (cutOut b offset len).1.data.empty = true
    · have hne : (cutOut b offset len).1.eof ≠ eof := fun heq => hkept ⟨hempty, heq⟩
      rw [hspec.eof] at hne ⊢
      have heof : b.eof = true := by
        cases hb : b.eof with
        | true => rfl
        | false =>
          rw [hb] at hne hfin
          cases eof with
          | true => exact hfin rfl
          | false => exact absurd rfl hne
      rw [if_pos heof]
      omega
    · have hpos : (cutOut b offset len).1.data.chainLength ≠ 0 :=
        fun hzero => hempty ((BufQueue.empty_iff_chainLength _).mpr hzero)
      omega
  have hleft := leftOf_cases before after (cutOut b offset len).1 eof
  have hcover := hspec.coverage_le
  refine Laid.insertFront ?_
  rcases hleft with ⟨-, -, hleft⟩ | ⟨hkept, hleft⟩
  · rw [hleft]
    refine h.middle.pieces (fun x => (Nat.le_add_right _ _).trans (hcover x)) hspec.front_solid
  · have hpieces : Laid ((cutOut b offset len).2.toList ++ [(cutOut b offset len).1] ++
        (others ++ (before ++ after))) stop := by
      refine h.middle.pieces (fun x => ?_) (List.forall_mem_append.mpr ⟨hspec.front_solid,
        List.forall_mem_singleton.mpr ⟨hsolid hkept, hspec.stop_eq.le⟩⟩)
      rw [coverage_append, coverage_cons, coverage_nil, Nat.zero_add]
      exact hcover x
    rw [hleft]
    refine hpieces.perm ?_
    rw [List.append_assoc, List.singleton_append, ← List.append_assoc others,
      ← List.append_assoc others]
    exact List.Perm.append_left _ List.perm_middle.symm

/-- The loss buffer stays sorted. -/
theorem cutFrom_sorted (h : Laid (before ++ b :: after) stop)
    (hsorted : (before ++ b :: after).Pairwise fun a b => a.offset ≤ b.offset)
    (hhit : b.Hit offset len) :
    (cutFrom before after b offset len eof).Pairwise fun a b => a.offset ≤ b.offset := by
  have hspec := cutOut_spec hhit
  have hafter : ∀ a ∈ after, (cutOut b offset len).1.offset ≤ a.offset := by
    intro a ha
    have hfollow := (List.pairwise_append.mp (h.follow hsorted)).2.1
    have hstop := (List.pairwise_cons.mp hfollow).1 a ha
    rw [← hspec.stop_eq] at hstop
    unfold StreamBuffer.stop StreamBuffer.endOffset at hstop
    omega
  rw [List.pairwise_append, List.pairwise_cons] at hsorted
  obtain ⟨hfront, ⟨-, hback⟩, hcross⟩ := hsorted
  have hleft : (leftOf before after (cutOut b offset len).1 eof).Pairwise
      fun a b => a.offset ≤ b.offset := by
    rcases leftOf_cases before after (cutOut b offset len).1 eof with ⟨-, -, hleft⟩ | ⟨-, hleft⟩
    · rw [hleft, List.pairwise_append]
      exact ⟨hfront, hback, fun a ha c hc => hcross a ha c (List.mem_cons_of_mem b hc)⟩
    · rw [hleft, List.pairwise_append, List.pairwise_cons]
      refine ⟨hfront, ⟨hafter, hback⟩, fun a ha c hc => ?_⟩
      rcases List.mem_cons.mp hc with rfl | hc
      · exact (hcross a ha b List.mem_cons_self).trans hspec.offset_le
      · exact hcross a ha c (List.mem_cons_of_mem b hc)
  unfold cutFrom
  cases (cutOut b offset len).2 with
  | none => exact hleft
  | some front => exact insertIntoLossBuffer_sorted hleft front

/-- A property that holds of every entry without the FIN. -/
theorem forall_cutFrom {P : StreamBuffer → Prop} (hhit : b.Hit offset len)
    (hentries : ∀ a ∈ before ++ after, P a) (hback : P (cutOut b offset len).1)
    (hnofin : ∀ a : StreamBuffer, a.eof = false → P a) :
    ∀ a ∈ cutFrom before after b offset len eof, P a := by
  have hleft : ∀ a ∈ leftOf before after (cutOut b offset len).1 eof, P a := by
    rcases leftOf_cases before after (cutOut b offset len).1 eof with ⟨-, -, hleft⟩ | ⟨-, hleft⟩
    · rw [hleft]
      exact hentries
    · rw [hleft]
      obtain ⟨hbefore, hafter⟩ := List.forall_mem_append.mp hentries
      exact List.forall_mem_append.mpr ⟨hbefore, List.forall_mem_cons.mpr ⟨hback, hafter⟩⟩
  unfold cutFrom
  cases hfront : (cutOut b offset len).2 with
  | none => exact hleft
  | some front =>
    obtain ⟨-, heof, -, -, -⟩ := (cutOut_spec hhit).front front hfront
    exact forall_insertIntoLossBuffer hleft (hnofin front heof) fun last _ _ => hnofin _ heof

/-! ### The entry that stays behind -/

/-- If the frame carried the FIN, and an entry without it ends inside the range, neither data nor
the FIN is left in that entry, and it stays. -/
theorem exists_empty_cutFrom (before after : List StreamBuffer) (hhit : b.Hit offset len)
    (hnofin : b.eof = false) (hend : b.endOffset ≤ offset + len) :
    ∃ a ∈ cutFrom before after b offset len true, a.data.empty = true ∧ a.eof = false := by
  have hspec := cutOut_spec hhit
  have hempty : (cutOut b offset len).1.data.empty = true := by
    rw [BufQueue.empty_iff]
    have hbytes : (cutOut b offset len).1.data.bytes =
        (b.data.bytes.drop (offset - b.offset)).drop len := by
      unfold cutOut
      by_cases hcut : offset - b.offset > 0
      · simp only [if_pos hcut, BufQueue.bytes_trimStartAtMost]
        rw [(b.data.splitAtMost_bytes _).2]
      · have hzero : offset - b.offset = 0 := by omega
        simp only [hzero, BufQueue.bytes_trimStartAtMost, List.drop_zero]
        rfl
    rw [hbytes, List.drop_drop, List.drop_eq_nil_iff, BufQueue.length_bytes]
    unfold StreamBuffer.endOffset at hend
    omega
  refine ⟨_, mem_cutFrom hhit ?_ fun hlt => ?_, hempty, hspec.eof.trans hnofin⟩
  · rcases leftOf_cases before after (cutOut b offset len).1 true with ⟨-, hfin, -⟩ | ⟨-, hleft⟩
    · rw [hspec.eof, hnofin] at hfin
      cases hfin
    · rw [hleft]
      exact List.mem_append_right _ List.mem_cons_self
  · exact hspec.endOffset_ne (hhit.le_endOffset hlt) hlt

end MasqueQuic
