/-
Where the data of a stream is that has been sent.

An entry of a send buffer covers the positions of its bytes, and with the FIN the position
behind them. Every position is covered by at most one entry of the retransmission buffer and
the loss buffer together, whatever is sent, lost, sent again in other pieces or acknowledged.
The retransmission buffer has one entry for each frame that is on its way (`owed`).
-/

import Mathlib.Data.List.TakeWhile
import MasqueQuic.Quic.SendBuffers

namespace MasqueQuic

/-! ### Entries and positions -/

/-- What a frame carries. -/
structure StreamSpan where
  offset : Nat
  len : Nat
  fin : Bool
  deriving DecidableEq

def StreamBuffer.span (b : StreamBuffer) : StreamSpan := ⟨b.offset, b.data.chainLength, b.eof⟩

/-- The position behind the entry; the FIN counts. -/
def StreamBuffer.stop (b : StreamBuffer) : Nat := b.endOffset + if b.eof then 1 else 0

def StreamSpan.stop (f : StreamSpan) : Nat := f.offset + f.len + if f.fin then 1 else 0

def StreamBuffer.covers (x : Nat) (b : StreamBuffer) : Bool :=
  decide (b.offset ≤ x ∧ x < b.stop)

/-- How many entries cover a position. -/
def coverage (entries : List StreamBuffer) (x : Nat) : Nat := entries.countP (·.covers x)

variable {entries entries' : List StreamBuffer} {b buf : StreamBuffer} {x : Nat}

theorem StreamBuffer.stop_span (b : StreamBuffer) : b.span.stop = b.stop := rfl

@[simp] theorem coverage_nil : coverage [] x = 0 := rfl

@[simp] theorem coverage_cons :
    coverage (b :: entries) x = coverage entries x + if b.covers x then 1 else 0 :=
  List.countP_cons

@[simp] theorem coverage_append :
    coverage (entries ++ entries') x = coverage entries x + coverage entries' x :=
  List.countP_append

theorem coverage_perm (h : entries.Perm entries') : coverage entries x = coverage entries' x :=
  h.countP_eq _

theorem coverage_pos (hb : b ∈ entries) (hx : b.offset ≤ x ∧ x < b.stop) :
    0 < coverage entries x :=
  List.countP_pos_iff.mpr ⟨b, hb, decide_eq_true hx⟩

/-- Two pieces cover what the whole does. -/
theorem covers_split (b front back : StreamBuffer) (hoffset : front.offset = b.offset)
    (hfront : front.stop = back.offset) (hback : back.stop = b.stop)
    (hle : b.offset ≤ back.offset) (hle' : back.offset ≤ b.stop) :
    (if front.covers x then 1 else 0) + (if back.covers x then 1 else 0) =
      if b.covers x then 1 else 0 := by
  simp only [StreamBuffer.covers, decide_eq_true_eq, hoffset, hfront, hback]
  split <;> split <;> split <;> omega

/-! ### Lost entries -/

/-- The entry that `insertIntoLossBuffer` makes of two. -/
def StreamBuffer.join (last buf : StreamBuffer) : StreamBuffer :=
  { last with data := last.data.append buf.data.chain_, eof := buf.eof }

theorem StreamBuffer.join_endOffset {last : StreamBuffer} (hjoin : last.endOffset = buf.offset) :
    (last.join buf).endOffset = buf.endOffset := by
  have hlen : (last.data.append buf.data.chain_).chainLength =
      last.data.chainLength + buf.data.chainLength := by
    rw [← BufQueue.length_bytes, BufQueue.bytes_append, List.length_append]
    exact congrArg₂ _ (BufQueue.length_bytes _) (BufQueue.length_bytes buf.data)
  change last.offset + (last.data.append buf.data.chain_).chainLength =
    buf.offset + buf.data.chainLength
  rw [hlen, ← hjoin, StreamBuffer.endOffset]
  omega

theorem StreamBuffer.join_stop {last : StreamBuffer} (hjoin : last.endOffset = buf.offset) :
    (last.join buf).stop = buf.stop := by
  unfold StreamBuffer.stop
  rw [join_endOffset hjoin]
  rfl

/-- The new entry is put somewhere, or joined to one that it continues. -/
theorem insertIntoLossBuffer_cases (entries : List StreamBuffer) (buf : StreamBuffer) :
    (∃ before after, entries = before ++ after ∧
      insertIntoLossBuffer entries buf = before ++ buf :: after) ∨
    ∃ before last after, entries = before ++ last :: after ∧ last.endOffset = buf.offset ∧
      insertIntoLossBuffer entries buf = before ++ last.join buf :: after := by
  unfold insertIntoLossBuffer
  rw [List.span_eq_takeWhile_dropWhile]
  have hsplit := List.takeWhile_append_dropWhile
    (p := fun b : StreamBuffer => decide (b.offset ≤ buf.offset)) (l := entries)
  dsimp only
  cases hlast : (entries.takeWhile fun b => decide (b.offset ≤ buf.offset)).getLast? with
  | none =>
    rw [List.getLast?_eq_none_iff.mp hlast] at hsplit
    exact .inl ⟨[], _, hsplit.symm, rfl⟩
  | some last =>
    by_cases hjoin : last.endOffset = buf.offset
    · refine .inr ⟨_, last, _, ?_, hjoin, if_pos hjoin⟩
      rw [← List.singleton_append, ← List.append_assoc, List.dropLast_append_getLast? _ hlast,
        hsplit]
    · exact .inl ⟨_, _, hsplit.symm, if_neg hjoin⟩

theorem insertIntoLossBuffer_coverage
    (hfin : ∀ last ∈ entries, last.endOffset = buf.offset → last.eof = false) :
    coverage (insertIntoLossBuffer entries buf) x =
      coverage entries x + if buf.covers x then 1 else 0 := by
  rcases insertIntoLossBuffer_cases entries buf with ⟨before, after, rfl, hinsert⟩ |
    ⟨before, last, after, rfl, hjoin, hinsert⟩
  · rw [hinsert, coverage_append, coverage_cons, coverage_append, Nat.add_assoc]
  · have hnofin := hfin last (List.mem_append_right _ List.mem_cons_self) hjoin
    have hstop : last.stop = buf.offset := by simp [StreamBuffer.stop, hnofin, hjoin]
    have hle : last.offset ≤ buf.offset := by
      rw [← hjoin]
      exact Nat.le_add_right _ _
    have hle' : buf.offset ≤ (last.join buf).stop := by
      rw [StreamBuffer.join_stop hjoin, StreamBuffer.stop, StreamBuffer.endOffset]
      omega
    have hmerged := covers_split (x := x) (last.join buf) last buf rfl hstop
      (StreamBuffer.join_stop hjoin).symm hle hle'
    rw [hinsert, coverage_append, coverage_cons, coverage_append, coverage_cons, ← hmerged]
    omega

/-- A property of entries that joining keeps. -/
theorem forall_insertIntoLossBuffer {P : StreamBuffer → Prop} (hentries : ∀ b ∈ entries, P b)
    (hbuf : P buf)
    (hjoined : ∀ last ∈ entries, last.endOffset = buf.offset → P (last.join buf)) :
    ∀ b ∈ insertIntoLossBuffer entries buf, P b := by
  intro b hb
  rcases insertIntoLossBuffer_cases entries buf with ⟨before, after, rfl, hinsert⟩ |
    ⟨before, last, after, rfl, hjoin, hinsert⟩
  · rw [hinsert, List.mem_append, List.mem_cons] at hb
    rcases hb with hb | rfl | hb
    · exact hentries b (List.mem_append_left _ hb)
    · exact hbuf
    · exact hentries b (List.mem_append_right _ hb)
  · rw [hinsert, List.mem_append, List.mem_cons] at hb
    rcases hb with hb | rfl | hb
    · exact hentries b (List.mem_append_left _ hb)
    · exact hjoined last (List.mem_append_right _ List.mem_cons_self) hjoin
    · exact hentries b (List.mem_append_right _ (List.mem_cons_of_mem _ hb))

/-! ### Entries of the retransmission buffer -/

/-- Entries that cover something and do not overlap start at different offsets. -/
theorem nodup_offsets (hsolid : ∀ b ∈ entries, b.offset < b.stop)
    (hapart : ∀ x, coverage entries x ≤ 1) : (entries.map (·.offset)).Nodup := by
  induction entries with
  | nil => exact List.nodup_nil
  | cons b entries ih =>
    obtain ⟨hb, hentries⟩ := List.forall_mem_cons.mp hsolid
    rw [List.map_cons, List.nodup_cons]
    refine ⟨fun hmem => ?_, ih hentries fun x => ?_⟩
    · obtain ⟨b', hb', hoffset⟩ := List.mem_map.mp hmem
      have hpos : 0 < coverage entries b.offset :=
        coverage_pos hb' ⟨hoffset.le, hoffset ▸ hentries b' hb'⟩
      have hle := hapart b.offset
      have hself : b.covers b.offset = true := decide_eq_true ⟨le_rfl, hb⟩
      rw [coverage_cons, if_pos hself] at hle
      omega
    · have hle := hapart x
      rw [coverage_cons] at hle
      omega

/-- The entry at an offset is found, and erasing takes it out alone. -/
theorem find_erase_of_nodup (hnodup : (entries.map (·.offset)).Nodup) (hb : b ∈ entries) :
    entries.find? (·.offset == b.offset) = some b ∧
      entries.Perm (b :: entries.filter (·.offset != b.offset)) := by
  induction entries with
  | nil => cases hb
  | cons c entries ih =>
    rw [List.map_cons, List.nodup_cons] at hnodup
    obtain ⟨hnotMem, hnodup⟩ := hnodup
    rcases List.mem_cons.mp hb with rfl | hb
    · have hrest : entries.filter (·.offset != b.offset) = entries := by
        rw [List.filter_eq_self]
        intro c hc
        rw [bne_iff_ne]
        intro hoffset
        exact hnotMem (hoffset ▸ List.mem_map_of_mem hc)
      refine ⟨List.find?_cons_of_pos (by simp), ?_⟩
      rw [List.filter_cons_of_neg (by simp), hrest]
    · have hne : c.offset ≠ b.offset := by
        intro hoffset
        exact hnotMem (hoffset ▸ List.mem_map_of_mem hb)
      obtain ⟨hfind, hperm⟩ := ih hnodup hb
      refine ⟨?_, ?_⟩
      · rw [List.find?_cons_of_neg (by simpa using hne), hfind]
      · rw [List.filter_cons_of_pos (by simpa using hne)]
        exact (hperm.cons c).trans (List.Perm.swap b c _)

/-! ### Entries that lie apart -/

theorem coverage_eq_zero (h : ∀ b ∈ entries, x < b.offset ∨ b.stop ≤ x) :
    coverage entries x = 0 := by
  refine List.countP_eq_zero.mpr fun b hb hcovers => ?_
  have hx := of_decide_eq_true hcovers
  have hout := h b hb
  omega

/-- The entries cover something, do not overlap, and end up to `stop`. -/
structure Laid (entries : List StreamBuffer) (stop : Nat) : Prop where
  solid : ∀ b ∈ entries, b.offset < b.stop
  below : ∀ b ∈ entries, b.stop ≤ stop
  apart : ∀ x, coverage entries x ≤ 1

namespace Laid

variable {stop : Nat} {loss others : List StreamBuffer}

theorem perm (h : Laid entries stop) (hperm : entries.Perm entries') : Laid entries' stop where
  solid b hb := h.solid b (hperm.mem_iff.mpr hb)
  below b hb := h.below b (hperm.mem_iff.mpr hb)
  apart x := coverage_perm hperm ▸ h.apart x

theorem sublist (h : Laid entries stop) (hsub : entries'.Sublist entries) : Laid entries' stop where
  solid b hb := h.solid b (hsub.subset hb)
  below b hb := h.below b (hsub.subset hb)
  apart x := (hsub.countP_le).trans (h.apart x)

/-- New entries that cover the same. -/
theorem congr (h : Laid entries stop) (hcoverage : ∀ x, coverage entries' x = coverage entries x)
    (hentries : ∀ b ∈ entries', b.offset < b.stop ∧ b.stop ≤ stop) : Laid entries' stop where
  solid b hb := (hentries b hb).1
  below b hb := (hentries b hb).2
  apart x := (hcoverage x).trans_le (h.apart x)

/-- An entry behind all others. -/
theorem push (h : Laid entries stop) (hoffset : b.offset = stop) (hsolid : b.offset < b.stop) :
    Laid (b :: entries) b.stop where
  solid := List.forall_mem_cons.mpr ⟨hsolid, h.solid⟩
  below := by
    refine List.forall_mem_cons.mpr ⟨le_rfl, fun a ha => ?_⟩
    have hle := h.below a ha
    omega
  apart x := by
    rw [coverage_cons]
    by_cases hx : b.covers x = true
    · have hge : b.offset ≤ x := (of_decide_eq_true hx).1
      rw [if_pos hx, coverage_eq_zero fun a ha => .inr ?_]
      have hle := h.below a ha
      omega
    · rw [if_neg hx]
      exact h.apart x

/-- Two entries do not share a position. -/
theorem disjoint (h : Laid (b :: entries) stop) {a : StreamBuffer} (ha : a ∈ entries)
    (hcovers : b.offset ≤ x ∧ x < b.stop) : x < a.offset ∨ a.stop ≤ x := by
  by_contra hout
  have hpos : 0 < coverage entries x := coverage_pos ha (by omega)
  have hone := h.apart x
  have hself : b.covers x = true := decide_eq_true hcovers
  rw [coverage_cons, if_pos hself] at hone
  omega

theorem offset_ne (h : Laid (b :: entries) stop) : ∀ a ∈ entries, a.offset ≠ b.offset := by
  intro a ha hoffset
  have hb := h.solid b List.mem_cons_self
  have hsolid := h.solid a (List.mem_cons_of_mem b ha)
  have hout := h.disjoint ha ⟨le_rfl, hb⟩
  omega

/-- An entry is cut in two. -/
theorem split (h : Laid (b :: entries) stop) (front back : StreamBuffer)
    (hoffset : front.offset = b.offset) (hfront : front.stop = back.offset)
    (hback : back.stop = b.stop) (hsolid : front.offset < front.stop)
    (hsolid' : back.offset < back.stop) : Laid (front :: back :: entries) stop := by
  obtain ⟨hbelow, hbelows⟩ := List.forall_mem_cons.mp h.below
  obtain ⟨-, hsolids⟩ := List.forall_mem_cons.mp h.solid
  refine h.congr (fun x => ?_) ?_
  · have hpieces := covers_split (x := x) b front back hoffset hfront hback (by omega) (by omega)
    rw [coverage_cons, coverage_cons, coverage_cons, ← hpieces]
    omega
  · refine List.forall_mem_cons.mpr ⟨⟨hsolid, by omega⟩,
      List.forall_mem_cons.mpr ⟨⟨hsolid', by omega⟩, fun a ha => ⟨hsolids a ha, hbelows a ha⟩⟩⟩

/-- An entry joins the lost ones. -/
theorem insertIntoLossBuffer (h : Laid (buf :: (others ++ loss)) stop) :
    Laid (others ++ MasqueQuic.insertIntoLossBuffer loss buf) stop := by
  obtain ⟨hsolid, hsolids⟩ := List.forall_mem_cons.mp h.solid
  obtain ⟨hbelow, hbelows⟩ := List.forall_mem_cons.mp h.below
  have hfin : ∀ last ∈ loss, last.endOffset = buf.offset → last.eof = false := by
    intro last hlast hjoin
    have hout := h.disjoint (List.mem_append_right others hlast) ⟨le_rfl, hsolid⟩
    have hle : last.offset ≤ last.endOffset := Nat.le_add_right _ _
    by_contra heof
    rw [StreamBuffer.stop, if_pos (eq_true_of_ne_false heof)] at hout
    omega
  have hloss : ∀ b ∈ MasqueQuic.insertIntoLossBuffer loss buf, b.offset < b.stop ∧ b.stop ≤ stop := by
    refine forall_insertIntoLossBuffer (fun b hb => ?_) ⟨hsolid, hbelow⟩ fun last hlast hjoin => ?_
    · exact ⟨hsolids b (List.mem_append_right _ hb), hbelows b (List.mem_append_right _ hb)⟩
    · have hle : last.offset ≤ last.endOffset := Nat.le_add_right _ _
      rw [StreamBuffer.join_stop hjoin]
      exact ⟨(hle.trans_eq hjoin).trans_lt hsolid, hbelow⟩
  refine h.congr (fun x => ?_) fun b hb => ?_
  · rw [coverage_append, insertIntoLossBuffer_coverage hfin, coverage_cons, coverage_append,
      Nat.add_assoc]
  · rcases List.mem_append.mp hb with hb | hb
    · exact ⟨hsolids b (List.mem_append_left _ hb), hbelows b (List.mem_append_left _ hb)⟩
    · exact hloss b hb

end Laid

/-- The loss buffer stays sorted. -/
theorem insertIntoLossBuffer_sorted {loss : List StreamBuffer}
    (hsorted : loss.Pairwise fun a b => a.offset ≤ b.offset) (buf : StreamBuffer) :
    (insertIntoLossBuffer loss buf).Pairwise fun a b => a.offset ≤ b.offset := by
  have hbefore : ∀ a ∈ loss.takeWhile fun b => decide (b.offset ≤ buf.offset),
      a.offset ≤ buf.offset := by
    intro a ha
    have hle := List.mem_takeWhile_imp ha
    exact of_decide_eq_true hle
  have hafter : ∀ a ∈ loss.dropWhile fun b => decide (b.offset ≤ buf.offset),
      buf.offset ≤ a.offset := by
    intro a ha
    cases hdrop : loss.dropWhile fun b => decide (b.offset ≤ buf.offset) with
    | nil => rw [hdrop] at ha; cases ha
    | cons first rest =>
      have hfirst : buf.offset < first.offset := by
        have hnot := List.head?_dropWhile_not (fun b => decide (b.offset ≤ buf.offset)) loss
        rw [hdrop] at hnot
        simpa using hnot
      have hrest : (first :: rest).Pairwise fun a b => a.offset ≤ b.offset := by
        rw [← hdrop]
        exact hsorted.sublist (List.dropWhile_sublist _)
      rw [hdrop] at ha
      rcases List.mem_cons.mp ha with rfl | ha
      · exact hfirst.le
      · exact hfirst.le.trans ((List.pairwise_cons.mp hrest).1 a ha)
  have hsplit := List.takeWhile_append_dropWhile
    (p := fun b : StreamBuffer => decide (b.offset ≤ buf.offset)) (l := loss)
  rw [← hsplit, List.pairwise_append] at hsorted
  obtain ⟨hfront, hback, hcross⟩ := hsorted
  unfold insertIntoLossBuffer
  rw [List.span_eq_takeWhile_dropWhile]
  dsimp only
  cases hlast : (loss.takeWhile fun b => decide (b.offset ≤ buf.offset)).getLast? with
  | none => exact List.pairwise_cons.mpr ⟨hafter, hback⟩
  | some last =>
    by_cases hjoin : last.endOffset = buf.offset
    · have hfront' := List.dropLast_append_getLast? _ hlast
      rw [← hfront', List.pairwise_append] at hfront
      dsimp only
      rw [if_pos hjoin]
      refine List.pairwise_append.mpr ⟨hfront.1, List.pairwise_cons.mpr ⟨fun a ha => ?_, hback⟩,
        fun a ha b hb => ?_⟩
      · exact hcross last (List.mem_of_getLast? hlast) a ha
      · rcases List.mem_cons.mp hb with rfl | hb
        · exact hfront.2.2 a ha last List.mem_cons_self
        · exact hcross a (List.mem_of_mem_dropLast ha) b hb
    · dsimp only
      rw [if_neg hjoin]
      refine List.pairwise_append.mpr ⟨hfront, List.pairwise_cons.mpr ⟨hafter, hback⟩,
        fun a ha b hb => ?_⟩
      rcases List.mem_cons.mp hb with rfl | hb
      · exact hbefore a ha
      · exact hcross a ha b hb

/-! ### What is on its way -/

namespace SendLike

variable {s : SendLike} {owed owed' : List StreamSpan} {f : StreamSpan}
  {before after : List StreamBuffer} {len : Nat} {fin : Bool}

/-- `owed` are the frames that are on their way. -/
structure Balanced (s : SendLike) (owed : List StreamSpan) : Prop where
  sent : (s.retransmissionBuffer.map (·.span)).Perm owed
  laid : Laid (s.retransmissionBuffer ++ s.lossBuffer) s.currentWriteOffset
  sorted : s.lossBuffer.Pairwise fun a b => a.offset ≤ b.offset

theorem Balanced.perm (hb : s.Balanced owed) (hperm : owed.Perm owed') : s.Balanced owed' :=
  ⟨hb.sent.trans hperm, hb.laid, hb.sorted⟩

theorem emplace_eq {others : List StreamBuffer} {stop : Nat}
    (hlaid : Laid (buf :: (s.retransmissionBuffer ++ others)) stop) :
    s.emplace buf = .ok { s with retransmissionBuffer := s.retransmissionBuffer ++ [buf] } := by
  have hnone : ¬ s.retransmissionBuffer.any (·.offset == buf.offset) = true := by
    rw [List.any_eq_true]
    rintro ⟨a, ha, hoffset⟩
    exact hlaid.offset_ne a (List.mem_append_left others ha) (beq_iff_eq.mp hoffset)
  exact if_neg hnone

/-- An entry joins those on their way. -/
theorem Balanced.emplaced {t : SendLike} (hsent : (s.retransmissionBuffer.map (·.span)).Perm owed)
    (hlaid : Laid (buf :: (s.retransmissionBuffer ++ s.lossBuffer)) s.currentWriteOffset)
    (hsorted : s.lossBuffer.Pairwise fun a b => a.offset ≤ b.offset)
    (ht : t = { s with retransmissionBuffer := s.retransmissionBuffer ++ [buf] }) :
    t.Balanced (buf.span :: owed) := by
  subst ht
  refine ⟨?_, hlaid.perm ?_, hsorted⟩
  · rw [List.map_append, List.map_singleton]
    exact (List.perm_append_singleton _ _).trans (hsent.cons _)
  · rw [List.append_assoc, List.singleton_append]
    exact List.perm_middle.symm

theorem length_splitAtMost (q : BufQueue) (hlen : len ≤ q.chainLength) :
    (q.splitAtMost len).1.bytes.length = len ∧
      (q.splitAtMost len).2.chainLength = q.chainLength - len := by
  obtain ⟨hfront, hback⟩ := q.splitAtMost_bytes len
  refine ⟨?_, ?_⟩
  · rw [hfront, List.length_take, BufQueue.length_bytes]
    omega
  · rw [← BufQueue.length_bytes, hback, List.length_drop, BufQueue.length_bytes]

/-- New data is sent. -/
theorem Balanced.handleNewStreamDataWritten (hb : s.Balanced owed)
    (hlen : len ≤ s.writeBuffer.chainLength) (hpos : 0 < len ∨ fin = true) :
    ∃ t, s.handleNewStreamDataWritten len fin = .ok t ∧
      t.Balanced (⟨s.currentWriteOffset, len, fin⟩ :: owed) ∧ t.lossBuffer = s.lossBuffer ∧
      t.writeBuffer = (s.writeBuffer.splitAtMost len).2 ∧
      t.currentWriteOffset = s.currentWriteOffset + len + if fin then 1 else 0 := by
  have hlength := (length_splitAtMost s.writeBuffer hlen).1
  let buf := StreamBuffer.new (s.writeBuffer.splitAtMost len).1 s.currentWriteOffset fin
  have hspan : buf.span = ⟨s.currentWriteOffset, len, fin⟩ := by
    change (⟨_, _, _⟩ : StreamSpan) = _
    rw [StreamSpan.mk.injEq]
    exact ⟨rfl, hlength, rfl⟩
  have hstop : buf.stop = s.currentWriteOffset + len + if fin then 1 else 0 := by
    rw [← StreamBuffer.stop_span, hspan]
    rfl
  have hsolid : buf.offset < buf.stop := by
    rw [hstop]
    change s.currentWriteOffset < _
    rcases hpos with hpos | rfl
    · omega
    · rw [if_pos rfl]
      omega
  have hlaid := hb.laid.push (b := buf) rfl hsolid
  rw [hstop] at hlaid
  refine ⟨_, emplace_eq hlaid, ?_, rfl, rfl, rfl⟩
  rw [← hspan]
  exact Balanced.emplaced
    (s := { s with
      writeBuffer := (s.writeBuffer.splitAtMost len).2
      currentWriteOffset := s.currentWriteOffset + len + if fin then 1 else 0 })
    hb.sent hlaid hb.sorted rfl

/-- Entries of the loss buffer do not start at the same offset. -/
theorem Balanced.offset_lt (hb : s.Balanced owed) (hloss : s.lossBuffer = before ++ b :: after) :
    (∀ a ∈ before, a.offset < b.offset) ∧ ∀ a ∈ after, b.stop ≤ a.offset := by
  have hlaid : Laid (b :: (before ++ after)) s.currentWriteOffset := by
    refine (hb.laid.sublist (List.sublist_append_right _ _)).perm ?_
    rw [hloss]
    exact List.perm_middle
  have hsolid := hlaid.solid b List.mem_cons_self
  have hsorted := hb.sorted
  rw [hloss, List.pairwise_append, List.pairwise_cons] at hsorted
  refine ⟨fun a ha => ?_, fun a ha => ?_⟩
  · have hle := hsorted.2.2 a ha b List.mem_cons_self
    have hne := hlaid.offset_ne a (List.mem_append_left _ ha)
    omega
  · have hle := hsorted.2.1.1 a ha
    have ha' : a ∈ before ++ after := List.mem_append_right _ ha
    have hsolida := hlaid.solid a (List.mem_cons_of_mem b ha')
    by_contra hlt
    have hout := hlaid.disjoint ha' (x := a.offset) ⟨hle, by omega⟩
    omega

/-- An entry of the loss buffer is sent again, or the front of it. -/
theorem Balanced.handleRetransmissionWritten (hb : s.Balanced owed)
    (hloss : s.lossBuffer = before ++ b :: after)
    (hpart : len = b.data.chainLength ∧ fin = b.eof ∨
      0 < len ∧ len ≤ b.data.chainLength ∧ fin = false) :
    ∃ t, s.handleRetransmissionWritten b.offset len fin before b after = .ok t ∧
      t.Balanced (⟨b.offset, len, fin⟩ :: owed) ∧
      (∃ rest, t.lossBuffer = before ++ (rest ++ after) ∧
        ∀ a ∈ rest, a.eof = b.eof ∧ a.stop = b.stop) ∧
      t.writeBuffer = s.writeBuffer ∧ t.currentWriteOffset = s.currentWriteOffset := by
  have hlaid : Laid (b :: (s.retransmissionBuffer ++ (before ++ after))) s.currentWriteOffset := by
    refine hb.laid.perm ?_
    rw [hloss, ← List.append_assoc, ← List.append_assoc]
    exact List.perm_middle
  have hsorted := hb.sorted
  rw [hloss] at hsorted
  unfold SendLike.handleRetransmissionWritten
  by_cases hwhole : len = b.data.chainLength ∧ fin = b.eof
  · rw [if_pos hwhole]
    let buf := StreamBuffer.new b.data.move.1 b.offset fin
    have hspan : buf.span = b.span := by
      change (⟨_, _, _⟩ : StreamSpan) = _
      rw [StreamBuffer.span, StreamSpan.mk.injEq]
      exact ⟨rfl, BufQueue.length_bytes b.data, hwhole.2⟩
    have hlaid' : Laid (buf :: (s.retransmissionBuffer ++ (before ++ after)))
        s.currentWriteOffset := by
      have hstop : buf.stop = b.stop := by
        rw [← StreamBuffer.stop_span, hspan]
        rfl
      refine hlaid.congr (fun x => ?_) ?_
      · rw [coverage_cons, coverage_cons, StreamBuffer.covers, StreamBuffer.covers, hstop]
        rfl
      · refine List.forall_mem_cons.mpr ⟨?_, fun a ha => ?_⟩
        · rw [hstop]
          exact ⟨hlaid.solid b List.mem_cons_self, hlaid.below b List.mem_cons_self⟩
        · exact ⟨hlaid.solid a (List.mem_cons_of_mem b ha),
            hlaid.below a (List.mem_cons_of_mem b ha)⟩
    refine ⟨_, emplace_eq hlaid', ?_, ⟨[], rfl, List.forall_mem_nil _⟩, rfl, rfl⟩
    have howed : (⟨b.offset, len, fin⟩ : StreamSpan) = buf.span := by
      rw [hspan, hwhole.1, hwhole.2]
      rfl
    rw [howed]
    exact Balanced.emplaced (s := { s with lossBuffer := before ++ after }) hb.sent hlaid'
      (hsorted.sublist (List.Sublist.append (List.Sublist.refl _) (List.sublist_cons_self _ _))) rfl
  · rw [if_neg hwhole]
    obtain ⟨hpos, hle, rfl⟩ := hpart.resolve_left hwhole
    obtain ⟨hfront, hback⟩ := length_splitAtMost b.data hle
    let buf := StreamBuffer.new (b.data.splitAtMost len).1 b.offset false
    let rest : StreamBuffer :=
      { b with offset := b.offset + len, data := (b.data.splitAtMost len).2 }
    have hspan : buf.span = ⟨b.offset, len, false⟩ := by
      change (⟨_, _, _⟩ : StreamSpan) = _
      rw [StreamSpan.mk.injEq]
      exact ⟨rfl, hfront, rfl⟩
    have hbuf : buf.stop = b.offset + len := by
      rw [← StreamBuffer.stop_span, hspan]
      rfl
    have hrest : rest.stop = b.stop := by
      change b.offset + len + (b.data.splitAtMost len).2.chainLength + _ =
        b.offset + b.data.chainLength + _
      rw [hback]
      change _ + (if b.eof then 1 else 0) = _
      omega
    have hsolid : rest.offset < rest.stop := by
      rw [hrest]
      change b.offset + len < b.offset + b.data.chainLength + if b.eof then 1 else 0
      by_cases heof : b.eof = true
      · rw [if_pos heof]
        omega
      · have hne : len ≠ b.data.chainLength :=
          fun heq => hwhole ⟨heq, (Bool.eq_false_iff.mpr heof).symm⟩
        omega
    have hlaid' : Laid (buf :: (s.retransmissionBuffer ++ (before ++ rest :: after)))
        s.currentWriteOffset := by
      refine (hlaid.split buf rest rfl hbuf hrest ?_ hsolid).perm
        (List.Perm.cons _ ?_)
      · change b.offset < buf.stop
        omega
      · rw [← List.append_assoc, ← List.append_assoc]
        exact List.perm_middle.symm
    have hsorted' : (before ++ rest :: after).Pairwise fun a b => a.offset ≤ b.offset := by
      have hgap := (hb.offset_lt hloss).2
      rw [List.pairwise_append, List.pairwise_cons] at hsorted ⊢
      obtain ⟨hfront, ⟨-, hafter⟩, hcross⟩ := hsorted
      refine ⟨hfront, ⟨fun a ha => ?_, hafter⟩, fun a ha c hc => ?_⟩
      · exact (hsolid.le.trans_eq hrest).trans (hgap a ha)
      · rcases List.mem_cons.mp hc with rfl | hc
        · exact (hcross a ha b List.mem_cons_self).trans (Nat.le_add_right _ _)
        · exact hcross a ha c (List.mem_cons_of_mem _ hc)
    refine ⟨_, emplace_eq hlaid', ?_, ⟨[rest], rfl, ?_⟩, rfl, rfl⟩
    · rw [← hspan]
      exact Balanced.emplaced (s := { s with lossBuffer := before ++ rest :: after }) hb.sent hlaid'
        hsorted' rfl
    · exact List.forall_mem_singleton.mpr ⟨rfl, hrest⟩

/-! ### The frames of a packet -/

theorem handleStreamWritten_new :
    s.handleStreamWritten s.currentWriteOffset len fin =
      (s.handleNewStreamDataWritten len fin >>= fun t => .ok (t, true)) :=
  if_pos rfl

theorem Balanced.handleStreamWritten_lost (hb : s.Balanced owed)
    (hloss : s.lossBuffer = before ++ b :: after) :
    s.handleStreamWritten b.offset len fin =
      (s.handleRetransmissionWritten b.offset len fin before b after >>= fun t =>
        .ok (t, false)) := by
  have hmem : b ∈ s.retransmissionBuffer ++ s.lossBuffer := by
    rw [hloss]
    exact List.mem_append_right _ (List.mem_append_right _ List.mem_cons_self)
  have hsolid := hb.laid.solid b hmem
  have hbelow := hb.laid.below b hmem
  have hbefore : ∀ a ∈ before, decide (a.offset < b.offset) = true :=
    fun a ha => decide_eq_true ((hb.offset_lt hloss).1 a ha)
  have hspan : s.lossBuffer.span (fun a => decide (a.offset < b.offset)) =
      (before, b :: after) := by
    rw [hloss, List.span_eq_takeWhile_dropWhile, List.takeWhile_append_of_pos hbefore,
      List.dropWhile_append_of_pos hbefore, List.takeWhile_cons_of_neg (by simp),
      List.dropWhile_cons_of_neg (by simp), List.append_nil]
  unfold SendLike.handleStreamWritten
  rw [if_neg (by omega), if_neg (by omega), hspan]
  exact if_pos rfl

/-- A frame that is on its way already is a clone. -/
theorem Balanced.handleStreamWritten_cloned (hb : s.Balanced owed) (hf : f ∈ owed) :
    s.handleStreamWritten f.offset len fin = .ok (s, false) := by
  obtain ⟨b, hmem, rfl⟩ := List.mem_map.mp (hb.sent.mem_iff.mpr hf)
  have hmem' : b ∈ s.retransmissionBuffer ++ s.lossBuffer := List.mem_append_left _ hmem
  have hsolid := hb.laid.solid b hmem'
  have hbelow := hb.laid.below b hmem'
  change s.handleStreamWritten b.offset len fin = _
  have hlost : ∀ a ∈ s.lossBuffer, a.offset ≠ b.offset := by
    obtain ⟨front, back, hsplit⟩ := List.append_of_mem hmem
    have hlaid : Laid (b :: (front ++ (back ++ s.lossBuffer))) s.currentWriteOffset := by
      refine hb.laid.perm ?_
      rw [hsplit, List.append_assoc]
      exact List.perm_middle
    intro a ha
    exact hlaid.offset_ne a (List.mem_append_right _ (List.mem_append_right _ ha))
  unfold SendLike.handleStreamWritten
  rw [if_neg (by omega), if_neg (by omega), List.span_eq_takeWhile_dropWhile]
  cases hdrop : s.lossBuffer.dropWhile fun a => decide (a.offset < b.offset) with
  | nil => rfl
  | cons first rest =>
    have hfirst : first ∈ s.lossBuffer := by
      refine (List.dropWhile_sublist fun a => decide (a.offset < b.offset)).subset ?_
      rw [hdrop]
      exact List.mem_cons_self
    exact if_neg (hlost first hfirst)

/-- A frame that is on its way has its entry. -/
theorem Balanced.findSent (hb : s.Balanced (f :: owed)) :
    ∃ b, s.findSent f.offset = some b ∧ b.span = f ∧
      ((s.eraseSent f.offset).retransmissionBuffer.map (·.span)).Perm owed ∧
      Laid (b :: ((s.eraseSent f.offset).retransmissionBuffer ++ s.lossBuffer))
        s.currentWriteOffset := by
  obtain ⟨b, hmem, rfl⟩ := List.mem_map.mp (hb.sent.mem_iff.mpr List.mem_cons_self)
  have hretx := hb.laid.sublist (List.sublist_append_left _ _)
  obtain ⟨hfind, hperm⟩ := find_erase_of_nodup (nodup_offsets hretx.solid hretx.apart) hmem
  refine ⟨b, hfind, rfl, ?_, hb.laid.perm (hperm.append_right _)⟩
  exact ((hperm.map _).symm.trans hb.sent).cons_inv

theorem Balanced.findSent_of_mem (hb : s.Balanced owed) (hf : f ∈ owed) :
    ∃ b, s.findSent f.offset = some b ∧ b.span = f := by
  obtain ⟨b, hfind, hspan, -⟩ := (hb.perm (List.perm_cons_erase hf)).findSent
  exact ⟨b, hfind, hspan⟩

/-- A frame is acknowledged. -/
theorem Balanced.eraseSent (hb : s.Balanced (f :: owed)) :
    (s.eraseSent f.offset).Balanced owed := by
  obtain ⟨b, -, -, hsent, hlaid⟩ := hb.findSent
  exact ⟨hsent, hlaid.sublist (List.sublist_cons_self _ _), hb.sorted⟩

/-- A frame is lost. -/
theorem Balanced.lose (hb : s.Balanced (f :: owed)) (hfind : s.findSent f.offset = some b) :
    ({ s with lossBuffer := insertIntoLossBuffer s.lossBuffer b }.eraseSent f.offset).Balanced
      owed := by
  obtain ⟨b', hfind', -, hsent, hlaid⟩ := hb.findSent
  obtain rfl : b' = b := Option.some.inj (hfind'.symm.trans hfind)
  exact ⟨hsent, hlaid.insertIntoLossBuffer, insertIntoLossBuffer_sorted hb.sorted b'⟩

end SendLike

end MasqueQuic
