/-
The read buffer as a list of segments.

The merge loop of `appendDataToReadBufferCommon` computes `Segment.insert`: the binary
search skips what ends before the new section, then either the section itself takes up
what it reaches (`loop_local`), or it is first appended to the section it starts in,
which then does the same (`loop_inserted`).
-/

import MasqueQuic.Lib.Segments
import MasqueQuic.Quic.StreamReceive

namespace MasqueQuic

/-- The section as a segment of the stream. -/
def StreamBuffer.seg (b : StreamBuffer) : Segment UInt8 := ⟨b.offset, b.data.bytes⟩

theorem StreamBuffer.stop_seg (b : StreamBuffer) : b.seg.stop = b.endOffset := by
  simp [seg, Segment.stop, endOffset]

theorem StreamBuffer.covers_seg {b : StreamBuffer} {i : Nat} :
    b.seg.Covers i ↔ b.offset ≤ i ∧ i < b.offset + b.data.chainLength := by
  rw [Segment.Covers, b.stop_seg]
  rfl

namespace QuicStreamLike

/-- The read buffer as segments. -/
def segs (readBuffer : List StreamBuffer) : List (Segment UInt8) :=
  readBuffer.map StreamBuffer.seg

@[simp] theorem segs_nil : segs [] = [] := rfl

@[simp] theorem segs_cons (b : StreamBuffer) (rest : List StreamBuffer) :
    segs (b :: rest) = b.seg :: segs rest := rfl

@[simp] theorem segs_append (pre rest : List StreamBuffer) :
    segs (pre ++ rest) = segs pre ++ segs rest := List.map_append

namespace Merge

variable {m : Merge} {it : Nat} {b c j : StreamBuffer} {pre mid rest : List StreamBuffer}
  {start stop : Option Nat}

/-! ### One iteration -/

/-- A section that starts at or before `it` and does not lie inside it. -/
theorem iterate_of_le (hcur : m.cur = c) (hle : c.offset ≤ b.offset)
    (hout : c.offset = b.offset → b.endOffset < c.endOffset) :
    m.iterate it b =
      if c.endOffset < b.offset then (m.leftNoOverlap it, true)
      else if c.endOffset ≤ b.endOffset then (m.leftOverlap it b, true)
      else (m.completeOverlap it, false) := by
  have hb : b.offset ≤ b.endOffset := Nat.le_add_right _ _
  have hc : c.offset ≤ c.endOffset := Nat.le_add_right _ _
  unfold iterate
  simp only [hcur]
  rw [if_neg (by omega), if_neg (by omega)]
  by_cases hlt : c.endOffset < b.offset
  · rw [if_neg (by omega), if_pos (by omega), if_pos hlt]
  · by_cases hend : c.endOffset ≤ b.endOffset
    · rw [if_pos (by omega), if_neg hlt, if_pos hend]
    · rw [if_neg (by omega), if_neg (by omega), if_pos (by omega), if_neg hlt, if_neg hend]

theorem seg_append_trimmed (c b : StreamBuffer) :
    (StreamBuffer.mk (c.data.append
        (b.data.trimStartAtMost (c.endOffset - b.offset)).2.move.1) c.offset c.eof).seg =
      c.seg.join b.seg := by
  simp [StreamBuffer.seg, Segment.join, Segment.stop, StreamBuffer.endOffset]

theorem seg_of_trimmed_empty
    (h : ¬ (b.data.trimStartAtMost (c.endOffset - b.offset)).2.chainLength > 0) :
    c.seg = c.seg.join b.seg := by
  have hnil : b.data.bytes.drop (c.endOffset - b.offset) = [] := by
    rw [← BufQueue.bytes_trimStartAtMost, ← List.length_eq_zero_iff, BufQueue.length_bytes]
    omega
  rw [Segment.join, c.stop_seg]
  change _ = Segment.mk c.offset (c.data.bytes ++ b.data.bytes.drop (c.endOffset - b.offset))
  rw [hnil, List.append_nil]
  rfl

theorem modify_append_cons (pre rest : List StreamBuffer) (b : StreamBuffer)
    (f : StreamBuffer → StreamBuffer) :
    (pre ++ b :: rest).modify pre.length f = pre ++ f b :: rest := by
  induction pre with
  | nil => rfl
  | cons a pre ih => simp [ih]

theorem leftOverlap_local :
    ∃ b' c', c'.seg = c.seg.join b.seg ∧
      (Merge.mk (pre ++ b :: rest) c none start stop).leftOverlap pre.length b =
        ⟨pre ++ b' :: rest, c', none, start.or (some pre.length), some (pre.length + 1)⟩ := by
  unfold leftOverlap
  by_cases hpos : (b.data.trimStartAtMost (c.endOffset - b.offset)).2.chainLength > 0
  · refine ⟨{ b with data := .cleared }, _, seg_append_trimmed c b, ?_⟩
    simp only [cur, hpos, if_true, setData, setCurData, modify_append_cons, BufQueue.move]
  · refine ⟨{ b with data := (b.data.trimStartAtMost (c.endOffset - b.offset)).2 }, c,
      seg_of_trimmed_empty hpos, ?_⟩
    simp only [cur, hpos, if_false, setData, modify_append_cons]

theorem cur_inserted :
    (Merge.mk (pre ++ j :: rest) c (some pre.length) start stop).cur = j := by
  simp [cur]

theorem leftOverlap_inserted :
    ∃ b' j', j'.seg = j.seg.join b.seg ∧
      (Merge.mk (pre ++ j :: (mid ++ b :: rest)) c (some pre.length) start stop).leftOverlap
          (pre ++ j :: mid).length b =
        ⟨pre ++ j' :: (mid ++ b' :: rest), c, some pre.length,
          start.or (some (pre ++ j :: mid).length), some ((pre ++ j :: mid).length + 1)⟩ := by
  have hsplit : ∀ j b : StreamBuffer,
      pre ++ j :: (mid ++ b :: rest) = (pre ++ j :: mid) ++ b :: rest := by simp
  have hmodify : ∀ q : BufQueue,
      (Merge.mk (pre ++ j :: (mid ++ b :: rest)) c (some pre.length) start stop).setData
      (pre ++ j :: mid).length q =
        ⟨pre ++ j :: (mid ++ { b with data := q } :: rest), c, some pre.length, start, stop⟩ := by
    intro q
    rw [setData, hsplit, modify_append_cons, hsplit]
  unfold leftOverlap
  rw [cur_inserted]
  by_cases hpos : (b.data.trimStartAtMost (j.endOffset - b.offset)).2.chainLength > 0
  · refine ⟨{ b with data := .cleared }, _, seg_append_trimmed j b, ?_⟩
    simp only [hpos, if_true, hmodify, setCurData, modify_append_cons, BufQueue.move]
  · refine ⟨{ b with data := (b.data.trimStartAtMost (j.endOffset - b.offset)).2 }, j,
      seg_of_trimmed_empty hpos, ?_⟩
    simp only [hpos, if_false, hmodify]

/-! ### The loop -/

theorem loop_cons (n : Nat) :
    loop (n + 1) pre.length ⟨pre ++ b :: rest, c, m.current, start, stop⟩ =
      match iterate ⟨pre ++ b :: rest, c, m.current, start, stop⟩ pre.length b with
      | (m', true) => m'
      | (m', false) => loop n (pre.length + 1) m' := by
  have hget : (pre ++ b :: rest)[pre.length]? = some b := by
    rw [List.getElem?_append_right (Nat.le_refl _), Nat.sub_self, List.getElem?_cons_zero]
  rw [loop]
  dsimp only
  generalize (pre ++ b :: rest)[pre.length]? = found at hget
  subst hget
  exact rfl

theorem take_length_succ (pre rest : List StreamBuffer) (b : StreamBuffer) :
    (pre ++ b :: rest).take (pre.length + 1) = pre ++ [b] := by
  rw [List.take_append, List.take_of_length_le (Nat.le_succ _), Nat.add_sub_cancel_left]
  rfl

theorem drop_length_succ (pre rest : List StreamBuffer) (b : StreamBuffer) :
    (pre ++ b :: rest).drop (pre.length + 1) = rest := by
  simp [List.drop_append]

/-- The new section takes up what it reaches. `mid` has been passed over. -/
theorem loop_local (hne : mid ≠ [] ∨ rest ≠ [])
    (hrest : ∀ b ∈ rest, c.offset ≤ b.offset ∧
      (c.offset = b.offset → b.endOffset < c.endOffset)) :
    segs (loop rest.length (pre ++ mid).length
      ⟨pre ++ mid ++ rest, c, none, if mid = [] then none else some pre.length,
        if mid = [] then none else some (pre ++ mid).length⟩).finish =
      segs pre ++ c.seg.absorb (segs rest) := by
  induction rest generalizing mid with
  | nil =>
    have hmid : mid ≠ [] := by simpa using hne
    simp [loop, finish, hmid, Segment.absorb]
  | cons b rest ih =>
    obtain ⟨⟨hle, hout⟩, hrest⟩ := List.forall_mem_cons.mp hrest
    rw [List.length_cons, loop_cons (m := ⟨[], c, none, none, none⟩),
      iterate_of_le (c := c) rfl hle hout, segs_cons, Segment.absorb, b.stop_seg, c.stop_seg]
    change _ = segs pre ++ if c.endOffset < b.offset then _ else _
    by_cases hlt : c.endOffset < b.offset
    · rw [if_pos hlt, if_pos hlt]
      by_cases hmid : mid = []
      · simp [leftNoOverlap, finish, hmid]
      · simp [leftNoOverlap, finish, hmid]
    · rw [if_neg hlt, if_neg hlt]
      by_cases hend : c.endOffset ≤ b.endOffset
      · rw [if_pos hend, if_pos hend]
        obtain ⟨b', c', hseg, heq⟩ := @leftOverlap_local b c (pre ++ mid) rest
          (if mid = [] then none else some pre.length)
          (if mid = [] then none else some (pre ++ mid).length)
        simp only [heq]
        by_cases hmid : mid = []
        · simp [finish, hmid, hseg]
        · have hdrop := drop_length_succ (pre ++ mid) rest b'
          simp only [List.append_assoc, List.length_append] at hdrop
          simp [finish, hmid, hseg, hdrop]
      · rw [if_neg hend, if_neg hend]
        have ih := @ih (mid ++ [b]) (by simp) hrest
        rw [← ih]
        by_cases hmid : mid = []
        · simp [completeOverlap, hmid]
        · simp [completeOverlap, hmid, Nat.add_assoc]

/-- A section of the deque that has been extended takes up what it reaches. -/
theorem loop_inserted (hrest : ∀ b ∈ rest, j.offset < b.offset) :
    segs (loop rest.length (pre ++ j :: mid).length
      ⟨pre ++ j :: mid ++ rest, c, some pre.length, some (pre.length + 1),
        some (pre ++ j :: mid).length⟩).finish =
      segs pre ++ j.seg.absorb (segs rest) := by
  induction rest generalizing mid with
  | nil => simp [loop, finish, erase, Segment.absorb, take_length_succ]
  | cons b rest ih =>
    obtain ⟨hlt, hrest⟩ := List.forall_mem_cons.mp hrest
    have hcur : (Merge.mk (pre ++ j :: mid ++ b :: rest) c (some pre.length)
        (some (pre.length + 1)) (some (pre ++ j :: mid).length)).cur = j := by
      rw [List.append_assoc, List.cons_append]
      exact cur_inserted
    rw [List.length_cons, loop_cons (m := ⟨[], c, some pre.length, none, none⟩),
      iterate_of_le hcur (Nat.le_of_lt hlt) (by omega), segs_cons, Segment.absorb, b.stop_seg,
      j.stop_seg]
    change _ = segs pre ++ if j.endOffset < b.offset then _ else _
    by_cases hend : j.endOffset < b.offset
    · rw [if_pos hend, if_pos hend]
      simp [leftNoOverlap, finish, erase, take_length_succ]
    · rw [if_neg hend, if_neg hend]
      by_cases hend : j.endOffset ≤ b.endOffset
      · rw [if_pos hend, if_pos hend]
        obtain ⟨b', j', hseg, heq⟩ := @leftOverlap_inserted b c j pre mid rest
          (some (pre.length + 1)) (some (pre ++ j :: mid).length)
        rw [List.append_assoc, List.cons_append]
        simp only [heq]
        have hdrop := drop_length_succ (pre ++ j' :: mid) rest b'
        simp only [List.append_assoc, List.cons_append, List.length_append,
          List.length_cons] at hdrop
        simp [finish, erase, take_length_succ, hseg, hdrop]
      · rw [if_neg hend, if_neg hend, ← @ih (mid ++ [b]) hrest]
        simp [completeOverlap, Nat.add_assoc]

end Merge

/-! ### Insertion -/

variable {readBuffer : List StreamBuffer} {buffer : StreamBuffer} {r : Nat}

/-- What the binary search skips ends before the new section, and what it finds does not. -/
theorem lowerBound_split (readBuffer : List StreamBuffer) (offset : Nat) :
    ∃ pre rest, readBuffer = pre ++ rest ∧ lowerBound readBuffer offset = pre.length ∧
      (∀ b ∈ pre, b.endOffset < offset) ∧ ∀ b, rest.head? = some b → offset ≤ b.endOffset := by
  induction readBuffer with
  | nil => exact ⟨[], [], rfl, rfl, nofun, nofun⟩
  | cons a readBuffer ih =>
    by_cases ha : a.endOffset < offset
    · obtain ⟨pre, rest, rfl, hidx, hpre, hrest⟩ := ih
      refine ⟨a :: pre, rest, rfl, ?_, List.forall_mem_cons.mpr ⟨ha, hpre⟩, hrest⟩
      simp only [lowerBound] at hidx ⊢
      simp [List.findIdx_cons, ha, hidx]
    · refine ⟨[], a :: readBuffer, rfl, ?_, nofun, fun b hb => ?_⟩
      · simp [lowerBound, List.findIdx_cons, ha]
      · cases hb
        exact Nat.le_of_not_lt ha

/-- Sections in normal form start in order, and before they end. -/
theorem offset_lt_of_apart {b : StreamBuffer} {rest : List StreamBuffer}
    (happart : Segment.Apart (segs (b :: rest))) : ∀ c ∈ rest, b.endOffset < c.offset := by
  intro c hc
  rw [← b.stop_seg]
  exact (Segment.apart_cons.mp happart).1 c.seg (List.mem_map_of_mem hc)

/-- The new section starts at or before the first one that it can touch, and is not
inside it. -/
theorem insertBuffer_absorb {pre rest : List StreamBuffer} {b : StreamBuffer}
    (happart : Segment.Apart (segs (b :: rest))) (hle : buffer.offset ≤ b.offset)
    (hout : ¬ (b.offset ≤ buffer.offset ∧ buffer.endOffset ≤ b.endOffset)) :
    segs (Merge.loop (rest.length + 1) pre.length
      ⟨pre ++ b :: rest, buffer, none, none, none⟩).finish =
      segs pre ++ buffer.seg.absorb (segs (b :: rest)) := by
  have hrest : ∀ c ∈ b :: rest, buffer.offset ≤ c.offset ∧
      (buffer.offset = c.offset → c.endOffset < buffer.endOffset) := by
    intro c hc
    rcases List.mem_cons.mp hc with rfl | hc
    · exact ⟨hle, fun h => by omega⟩
    · have h1 := offset_lt_of_apart happart c hc
      have h2 : b.offset ≤ b.endOffset := Nat.le_add_right _ _
      exact ⟨by omega, fun h => by omega⟩
  have hloop := @Merge.loop_local buffer pre [] (b :: rest)
    (.inr (by simp)) hrest
  simpa using hloop

/-- The new section starts inside the first one that it can touch, and ends behind it. -/
theorem insertBuffer_extend {pre rest : List StreamBuffer} {b : StreamBuffer}
    (happart : Segment.Apart (segs (b :: rest))) (hlt : b.offset < buffer.offset)
    (hle : buffer.offset ≤ b.endOffset) (hend : b.endOffset < buffer.endOffset) :
    segs (Merge.loop (rest.length + 1) pre.length
      ⟨pre ++ b :: rest, buffer, none, none, none⟩).finish =
      segs pre ++ (b.seg.join buffer.seg).absorb (segs rest) := by
  have hiterate : Merge.iterate ⟨pre ++ b :: rest, buffer, none, none, none⟩ pre.length b =
      (Merge.rightOverlap ⟨pre ++ b :: rest, buffer, none, none, none⟩ pre.length b, false) := by
    have hcur : (Merge.mk (pre ++ b :: rest) buffer none none none).cur = buffer := rfl
    unfold Merge.iterate
    simp only [hcur]
    rw [if_neg (by omega), if_neg (by omega), if_neg (by omega), if_neg (by omega),
      if_neg (by omega), if_pos (by omega)]
  rw [Merge.loop_cons (m := ⟨[], buffer, none, none, none⟩), hiterate]
  have hseg := Merge.seg_append_trimmed b buffer
  have hrest : ∀ c ∈ rest, b.offset < c.offset := by
    intro c hc
    have h1 := offset_lt_of_apart happart c hc
    have h2 : b.offset ≤ b.endOffset := Nat.le_add_right _ _
    omega
  have hloop := @Merge.loop_inserted { buffer with data := .cleared }
    ⟨b.data.append (buffer.data.trimStartAtMost (b.endOffset - buffer.offset)).2.move.1,
      b.offset, b.eof⟩ pre [] rest hrest
  rw [hseg] at hloop
  rw [← hloop]
  simp [Merge.rightOverlap, Merge.cur, Merge.setCurData, Merge.setData, BufQueue.move,
    Merge.modify_append_cons]

/-- The new section lies inside the first one that it can touch. -/
theorem insertBuffer_inside {pre rest : List StreamBuffer} {b : StreamBuffer}
    (happart : Segment.Apart (segs (b :: rest)))
    (hin : b.offset ≤ buffer.offset ∧ buffer.endOffset ≤ b.endOffset) :
    (Merge.loop (rest.length + 1) pre.length
      ⟨pre ++ b :: rest, buffer, none, none, none⟩).finish = pre ++ b :: rest := by
  have hiterate : Merge.iterate ⟨pre ++ b :: rest, buffer, none, none, none⟩ pre.length b =
      (⟨pre ++ b :: rest, buffer, none, none, none⟩, true) := by
    have hcur : (Merge.mk (pre ++ b :: rest) buffer none none none).cur = buffer := rfl
    unfold Merge.iterate
    simp only [hcur]
    split
    · rfl
    · rfl
  rw [Merge.loop_cons (m := ⟨[], buffer, none, none, none⟩), hiterate]
  have hlast : ∀ last, (pre ++ b :: rest).getLast? = some last →
      ¬ buffer.offset > last.endOffset := by
    intro last hlast
    rw [List.getLast?_append_cons] at hlast
    have hmem := List.mem_of_getLast? hlast
    have h1 : buffer.offset ≤ buffer.endOffset := Nat.le_add_right _ _
    rcases List.mem_cons.mp hmem with rfl | hmem
    · omega
    · have h2 := offset_lt_of_apart happart last hmem
      have h3 : last.offset ≤ last.endOffset := Nat.le_add_right _ _
      omega
  simp only [Merge.finish]
  split
  · rfl
  · rename_i last hget
    exact if_neg (hlast last hget)

/-- The merge computes the insertion of a segment. -/
theorem segs_insertBuffer (hnormal : Segment.Normal r (segs readBuffer)) :
    segs (insertBuffer readBuffer buffer) = Segment.insert buffer.seg (segs readBuffer) := by
  unfold insertBuffer
  split
  · rename_i hempty
    rw [List.isEmpty_iff.mp hempty]
    rfl
  · rename_i hempty
    obtain ⟨pre, rest, rfl, hidx, hpre, hrest⟩ := lowerBound_split readBuffer buffer.offset
    have hskip : ∀ s ∈ segs pre, s.stop < buffer.seg.offset := by
      intro s hs
      obtain ⟨b, hb, rfl⟩ := List.mem_map.mp hs
      rw [b.stop_seg]
      exact hpre b hb
    rw [segs_append, Segment.insert_append hskip]
    simp only [hidx, List.length_append, Nat.add_sub_cancel_left]
    cases rest with
    | nil =>
      -- Everything ends before the new section, which goes to the end.
      have hpreNe : pre ≠ [] := by simpa using hempty
      obtain ⟨front, last, rfl⟩ := List.eq_nil_or_concat pre |>.resolve_left hpreNe
      have hlast := hpre last (by simp)
      simp [Merge.loop, Merge.finish, Merge.cur, Segment.insert, hlast]
    | cons b rest =>
      have happart := (List.pairwise_append.mp (segs_append pre (b :: rest) ▸ hnormal.apart)).2.1
      have htouch := hrest b rfl
      rw [segs_cons, Segment.insert, b.stop_seg, buffer.stop_seg, List.length_cons]
      change _ = segs pre ++ if b.endOffset < buffer.offset then _ else
        if b.offset ≤ buffer.offset ∧ buffer.endOffset ≤ b.endOffset then _ else
        if buffer.offset ≤ b.offset then _ else _
      rw [if_neg (by omega)]
      by_cases hin : b.offset ≤ buffer.offset ∧ buffer.endOffset ≤ b.endOffset
      · rw [if_pos hin, insertBuffer_inside happart hin, segs_append, segs_cons]
      · rw [if_neg hin]
        by_cases hle : buffer.offset ≤ b.offset
        · rw [if_pos hle]
          exact insertBuffer_absorb happart hle hin
        · rw [if_neg hle]
          exact insertBuffer_extend happart (by omega) htouch (by omega)

/-! ### Appending -/

variable {stream stream' : QuicStreamLike} {S : Bytes}

theorem insertBuffer_spec (hnormal : Segment.Normal r (segs readBuffer))
    (hne : buffer.data.bytes ≠ []) (hr : r ≤ buffer.offset) :
    Segment.Normal r (segs (insertBuffer readBuffer buffer)) ∧
      (∀ i, Segment.Covered (segs (insertBuffer readBuffer buffer)) i ↔
        buffer.seg.Covers i ∨ Segment.Covered (segs readBuffer) i) ∧
      (buffer.seg.Of S → (∀ s ∈ segs readBuffer, s.Of S) →
        ∀ s ∈ segs (insertBuffer readBuffer buffer), s.Of S) := by
  rw [segs_insertBuffer hnormal]
  obtain ⟨h1, h2, -, h4⟩ := @Segment.insert_spec _ S buffer.seg _ _ hnormal hne hr
  exact ⟨h1, h2, h4⟩

/-- The part of a section from `r` on. -/
theorem of_drop {b : StreamBuffer} {n : Nat} (h : b.seg.Of S) (hn : n ≤ b.data.bytes.length) :
    Segment.Of S ⟨b.offset + n, b.data.bytes.drop n⟩ := by
  obtain ⟨hstop, hdata⟩ := h
  have hdata : b.data.bytes = (S.drop b.offset).take b.data.bytes.length := hdata
  simp only [StreamBuffer.seg, Segment.stop] at hstop
  refine ⟨?_, ?_⟩
  · simp only [Segment.stop, List.length_drop]
    omega
  · change b.data.bytes.drop n = (S.drop (b.offset + n)).take (b.data.bytes.drop n).length
    rw [List.length_drop, ← List.drop_drop, ← List.drop_take, ← hdata]

/-- What lies at or behind the read offset is added to the read buffer. -/
theorem insertUnread_spec
    (hnormal : Segment.Normal stream.currentReadOffset (segs stream.readBuffer)) :
    ∃ readBuffer, stream.insertUnread buffer = { stream with readBuffer } ∧
      Segment.Normal stream.currentReadOffset (segs readBuffer) ∧
      (∀ i, Segment.Covered (segs readBuffer) i ↔
        (stream.currentReadOffset ≤ i ∧ buffer.seg.Covers i) ∨
          Segment.Covered (segs stream.readBuffer) i) ∧
      (buffer.seg.Of S → (∀ s ∈ segs stream.readBuffer, s.Of S) →
        ∀ s ∈ segs readBuffer, s.Of S) := by
  have hlength := buffer.data.length_bytes
  unfold insertUnread
  by_cases hempty : buffer.data.chainLength = 0
  · rw [if_pos hempty]
    refine ⟨_, rfl, hnormal, fun i => ?_, fun _ h => h⟩
    rw [StreamBuffer.covers_seg]
    refine (or_iff_right ?_).symm
    omega
  · rw [if_neg hempty]
    by_cases hlt : buffer.offset < stream.currentReadOffset
    · rw [if_pos hlt]
      have htrim := buffer.data.bytes_trimStartAtMost (stream.currentReadOffset - buffer.offset)
      generalize (buffer.data.trimStartAtMost (stream.currentReadOffset - buffer.offset)).2 = q
        at htrim ⊢
      have hlen : q.chainLength =
          buffer.data.chainLength - (stream.currentReadOffset - buffer.offset) := by
        rw [← q.length_bytes, htrim, List.length_drop, hlength]
      by_cases hnone : q.chainLength = 0
      · rw [if_pos hnone]
        refine ⟨_, rfl, hnormal, fun i => ?_, fun _ h => h⟩
        rw [StreamBuffer.covers_seg]
        refine (or_iff_right ?_).symm
        omega
      · rw [if_neg hnone]
        have hne : q.bytes ≠ [] := by
          rw [← List.length_pos_iff, BufQueue.length_bytes]
          omega
        obtain ⟨h1, h2, h3⟩ := @insertBuffer_spec _
          ⟨q, stream.currentReadOffset, buffer.eof⟩ _ S hnormal hne (Nat.le_refl _)
        refine ⟨_, rfl, h1, fun i => ?_, fun hof => h3 ?_⟩
        · rw [h2, StreamBuffer.covers_seg, StreamBuffer.covers_seg]
          refine or_congr_left ?_
          dsimp only
          omega
        · have hdrop := of_drop (n := stream.currentReadOffset - buffer.offset) hof (by omega)
          rw [Nat.add_sub_cancel' (Nat.le_of_lt hlt), ← htrim] at hdrop
          exact hdrop
    · rw [if_neg hlt]
      have hne : buffer.data.bytes ≠ [] := by
        rw [← List.length_pos_iff, hlength]
        omega
      obtain ⟨h1, h2, h3⟩ := insertBuffer_spec (S := S) hnormal hne (Nat.le_of_not_lt hlt)
      refine ⟨_, rfl, h1, fun i => ?_, h3⟩
      rw [h2, StreamBuffer.covers_seg]
      refine or_congr_left ?_
      omega

/-- The final size that the checks leave. -/
theorem checkFinalOffset_ok {final : Option Nat} (h : stream.checkFinalOffset buffer = .ok final) :
    (buffer.eof ∧ final = some buffer.endOffset ∧ stream.maxOffsetObserved ≤ buffer.endOffset ∧
        ∀ F, stream.finalReadOffset = some F → F = buffer.endOffset) ∨
      (¬ buffer.eof ∧ final = stream.finalReadOffset ∧
        ∀ F, stream.finalReadOffset = some F → buffer.endOffset ≤ F) := by
  unfold checkFinalOffset at h
  split at h
  · rename_i F hfinal heof
    split at h
    · cases h
    · rename_i hF
      split at h
      · cases h
      · rename_i hmax
        cases h
        refine .inl ⟨heof, rfl, Nat.le_of_not_lt hmax, fun F' hF' => ?_⟩
        rw [hfinal] at hF'
        cases hF'
        exact not_not.mp hF
  · rename_i hfinal heof
    split at h
    · cases h
    · rename_i hmax
      cases h
      exact .inl ⟨heof, rfl, Nat.le_of_not_lt hmax, fun F hF => by rw [hfinal] at hF; cases hF⟩
  · rename_i F hfinal heof
    split at h
    · cases h
    · rename_i hend
      cases h
      refine .inr ⟨by simp [heof], hfinal.symm, fun F' hF' => ?_⟩
      rw [hfinal] at hF'
      cases hF'
      exact Nat.le_of_not_lt hend
  · rename_i hfinal heof
    cases h
    exact .inr ⟨by simp [heof], hfinal.symm, fun F hF => by rw [hfinal] at hF; cases hF⟩

/-- An append that succeeds: the frame is empty and ignored, or the final size and the
limits allow it. -/
theorem appendDataToReadBufferCommon_ok {σ : Type} {conn conn' : σ}
    {visitor : Nat → Nat → σ → Except QuicException σ}
    (h : stream.appendDataToReadBufferCommon visitor conn buffer = .ok (stream', conn')) :
    (¬ buffer.eof ∧ buffer.data.chainLength = 0 ∧ stream' = stream ∧ conn' = conn) ∨
      ∃ final, stream.checkFinalOffset buffer = .ok final ∧
        visitor stream.maxOffsetObserved buffer.endOffset conn = .ok conn' ∧
        stream' = insertUnread { stream with
          finalReadOffset := final
          maxOffsetObserved := max stream.maxOffsetObserved buffer.endOffset } buffer := by
  unfold appendDataToReadBufferCommon at h
  split at h
  · rename_i hignored
    cases h
    exact .inl ⟨hignored.1, hignored.2, rfl, rfl⟩
  · split at h
    · cases h
    · rename_i final hfinal
      dsimp only at h
      split at h
      · cases h
      · rename_i conn'' hvisit
        cases h
        exact .inr ⟨final, hfinal, hvisit, rfl⟩

/-! ### Reading -/

variable {amount remaining offset : Nat} {sinkData eof : Bool} {data : Buf}

/-- The loop stops at a gap. -/
theorem readInOrder_of_gap (hgap : ∀ b ∈ readBuffer, offset < b.offset) :
    readInOrder amount sinkData readBuffer remaining offset data eof =
      .ok ⟨data, eof, readBuffer, offset⟩ := by
  cases readBuffer with
  | nil => rfl
  | cons curr rest =>
    rw [readInOrder, if_pos (.inr (hgap curr (.head _)))]

theorem takeFrom_spec {q : BufQueue} {toRead : Nat} (h : toRead ≤ q.chainLength) :
    ∃ splice left, takeFrom sinkData q toRead = .ok (splice, left) ∧
      splice.bytes = (if sinkData then [] else q.bytes.take toRead) ∧
      left.bytes = q.bytes.drop toRead := by
  unfold takeFrom
  cases sinkData with
  | true =>
    rw [BufQueue.trimStart_of_le h]
    exact ⟨none, _, rfl, rfl, BufQueue.bytes_trimStartAtMost q toRead⟩
  | false =>
    obtain ⟨hfront, hback⟩ := q.splitAtMost_bytes toRead
    exact ⟨_, _, rfl, hfront, hback⟩

/-- How much a read takes of what lies ready. -/
def readable (amount : Nat) (ready : List UInt8) : Nat :=
  min ready.length (if amount = 0 then ready.length else amount)

/-- The section at the read offset is taken, whole or in part, and nothing behind it. -/
theorem readInOrder_ready {curr : StreamBuffer} {rest : List StreamBuffer}
    (hoff : curr.offset = offset) (hgap : ∀ b ∈ rest, curr.endOffset < b.offset) :
    ∃ out, readInOrder amount sinkData (curr :: rest) amount offset none false = .ok out ∧
      out.currentReadOffset = offset + readable amount curr.data.bytes ∧
      segs out.readBuffer =
        (if curr.data.bytes.length ≤ readable amount curr.data.bytes then segs rest
        else ⟨curr.offset + readable amount curr.data.bytes,
          curr.data.bytes.drop (readable amount curr.data.bytes)⟩ :: segs rest) ∧
      out.data.bytes =
        if sinkData then [] else curr.data.bytes.take (readable amount curr.data.bytes) := by
  have hread : min curr.data.chainLength (if amount = 0 then curr.data.chainLength else amount) =
      readable amount curr.data.bytes := by
    rw [readable, BufQueue.length_bytes]
  have hle : readable amount curr.data.bytes ≤ curr.data.chainLength := by
    rw [← hread]
    exact Nat.min_le_left _ _
  obtain ⟨splice, left, htake, hsplice, hleft⟩ :=
    @takeFrom_spec sinkData _ _ hle
  have hlength : left.chainLength = curr.data.chainLength - readable amount curr.data.bytes := by
    rw [← left.length_bytes, hleft, List.length_drop, BufQueue.length_bytes]
  have hbytes : Buf.bytes (if sinkData then none else Buf.appendToChain none splice) =
      if sinkData then [] else curr.data.bytes.take (readable amount curr.data.bytes) := by
    cases sinkData with
    | true => rfl
    | false => exact hsplice
  rw [readInOrder, if_neg (by omega), if_neg (not_not_intro hoff)]
  simp only [hread, htake]
  rw [hlength, BufQueue.length_bytes]
  by_cases hall : curr.data.chainLength ≤ readable amount curr.data.bytes
  · have hrest : ∀ b ∈ rest, offset + readable amount curr.data.bytes < b.offset := by
      intro b hb
      have h1 := hgap b hb
      simp only [StreamBuffer.endOffset] at h1
      omega
    rw [if_pos (by omega), readInOrder_of_gap hrest, if_pos hall]
    exact ⟨_, rfl, rfl, rfl, hbytes⟩
  · rw [if_neg (by omega), if_neg hall]
    refine ⟨_, rfl, rfl, ?_, hbytes⟩
    rw [segs_cons, StreamBuffer.seg, hleft]

/-- A read takes the bytes that lie ready at the read offset, up to the amount. The
`CHECK` holds, because no section starts before the read offset. -/
theorem readInOrder_spec (hnormal : Segment.Normal offset (segs readBuffer)) :
    ∃ out, readInOrder amount sinkData readBuffer amount offset none false = .ok out ∧
      out.currentReadOffset = offset + readable amount (Segment.front offset (segs readBuffer)) ∧
      segs out.readBuffer = Segment.advance
        (readable amount (Segment.front offset (segs readBuffer))) offset (segs readBuffer) ∧
      out.data.bytes = if sinkData then [] else
        (Segment.front offset (segs readBuffer)).take
          (readable amount (Segment.front offset (segs readBuffer))) := by
  cases readBuffer with
  | nil => exact ⟨⟨none, false, [], offset⟩, rfl, by simp [readable, Segment.front], rfl,
      by cases sinkData <;> rfl⟩
  | cons curr rest =>
    have habove : offset ≤ curr.offset := hnormal.above curr.seg (.head _)
    by_cases hoff : curr.offset = offset
    · have hfront : Segment.front offset (segs (curr :: rest)) = curr.data.bytes := if_pos hoff
      obtain ⟨out, hrun, hcur, hsegs, hdata⟩ := @readInOrder_ready amount _
        sinkData _ _ hoff (offset_lt_of_apart hnormal.apart)
      rw [hfront]
      have hseg : ¬ curr.seg.offset ≠ offset := not_not_intro hoff
      refine ⟨out, hrun, hcur, hsegs.trans ?_, hdata⟩
      rw [segs_cons, Segment.advance, if_neg hseg]
      rfl
    · have hfront : Segment.front offset (segs (curr :: rest)) = [] := if_neg hoff
      have hgap : curr.offset > offset := by omega
      rw [hfront]
      refine ⟨⟨none, false, curr :: rest, offset⟩, ?_, ?_, ?_, ?_⟩
      · rw [readInOrder, if_pos (.inr hgap)]
      · simp [readable]
      · have hseg : curr.seg.offset ≠ offset := hoff
        rw [segs_cons, Segment.advance, if_pos hseg]
      · cases sinkData <;> rfl

end QuicStreamLike

end MasqueQuic
