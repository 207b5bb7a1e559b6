/-
The loop over the ack blocks takes the acknowledged packets out of the queue.

`ackBlocksLoop` moves reverse iterators over the queue and erases batches behind them.
On a sorted queue, and for blocks that descend, it does what the plain description says:
the packets of the space whose number lies in a block are handled one after the other,
the largest number first, and exactly they leave the queue.
-/

import Mathlib.Data.List.DropRight
import MasqueQuic.Quic.AckHandlers

namespace MasqueQuic

variable {σ ε : Type}

/-- Some block acknowledges the packet. -/
def acks (pnSpace : PacketNumberSpace) (blocks : List AckBlock) (p : OutstandingPacket) : Bool :=
  p.packetNumberSpace == pnSpace &&
    blocks.any fun block => block.startPacket ≤ p.packetNum && p.packetNum ≤ block.endPacket

/-- The queue is sorted by packet number. -/
def SortedPackets (packets : List OutstandingPacket) : Prop :=
  packets.Pairwise fun p q => p.packetNum ≤ q.packetNum

variable {pnSpace : PacketNumberSpace} {block : AckBlock} {blocks : List AckBlock}
  {p : OutstandingPacket} {pre batch post packets : List OutstandingPacket}

@[simp]
theorem acks_nil : acks pnSpace [] p = false := by simp [acks]

theorem acks_iff :
    acks pnSpace blocks p = true ↔
      p.packetNumberSpace = pnSpace ∧
        ∃ block ∈ blocks, block.startPacket ≤ p.packetNum ∧ p.packetNum ≤ block.endPacket := by
  simp [acks]

theorem acks_cons :
    acks pnSpace (block :: blocks) p =
      ((p.packetNumberSpace == pnSpace &&
        (decide (block.startPacket ≤ p.packetNum) && decide (p.packetNum ≤ block.endPacket))) ||
        acks pnSpace blocks p) := by
  rw [acks, acks, List.any_cons, Bool.and_or_distrib_left]

theorem acks_foreign (hp : p.packetNumberSpace ≠ pnSpace) : acks pnSpace blocks p = false := by
  simp [acks, hp]

/-- What lies above the first block lies above all of them. -/
theorem Descending.acks_above (hblocks : Descending (block :: blocks))
    (hp : block.endPacket < p.packetNum) : acks pnSpace (block :: blocks) p = false := by
  rw [Bool.eq_false_iff]
  intro hacks
  obtain ⟨-, b, hb, -, hle⟩ := acks_iff.mp hacks
  rcases List.mem_cons.mp hb with rfl | hb
  · omega
  · have hbelow := List.rel_of_pairwise_cons hblocks.below hb
    have hstart := hblocks.interval block List.mem_cons_self
    omega

theorem Descending.tail (hblocks : Descending (block :: blocks)) : Descending blocks :=
  ⟨fun b hb => hblocks.interval b (List.mem_cons_of_mem _ hb), hblocks.below.of_cons⟩

/-! ### One block -/

/-- The walk over a block passes the packet. -/
def passes (pnSpace : PacketNumberSpace) (block : AckBlock) (p : OutstandingPacket) : Bool :=
  !(p.packetNumberSpace == pnSpace && decide (p.packetNum < block.startPacket))

def own (pnSpace : PacketNumberSpace) (p : OutstandingPacket) : Bool :=
  p.packetNumberSpace == pnSpace

variable {step : AckLoop σ → OutstandingPacket → Except (SendFailure ε) (AckLoop σ)}
  {s : AckLoop σ}

/-- One block, with the erase that follows the walk: the packets up to the first one below
the block are passed, and those of the space among them leave the queue. -/
theorem ackBlockLoop_eq {β : Type} (pre batch post : List OutstandingPacket) (s : AckLoop σ)
    (k : Nat → List OutstandingPacket → AckLoop σ → Except (SendFailure ε) β) :
    (ackBlockLoop step pnSpace block pre.length (pre ++ batch).length (pre ++ batch ++ post) s >>=
      fun r =>
        k r.1 (if r.1 ≠ r.2.1 then Deque.eraseRange r.2.2.1 r.1 r.2.1 else r.2.2.1) r.2.2.2) =
    (((pre.rtakeWhile (passes pnSpace block)).filter (own pnSpace)).reverse.foldlM step s >>=
      fun s =>
        k (pre.rdropWhile (passes pnSpace block)).length
          (pre.rdropWhile (passes pnSpace block) ++
            ((pre.rtakeWhile (passes pnSpace block)).filter (fun p => !own pnSpace p) ++ post))
          s) := by
  have herase : ∀ b eraseEnd : Nat, ∀ packets : List OutstandingPacket,
      (if b ≠ eraseEnd then Deque.eraseRange packets b eraseEnd else packets) =
        Deque.eraseRange packets b eraseEnd := by
    intro b eraseEnd packets
    by_cases h : b = eraseEnd
    · rw [if_neg (not_not.mpr h), h, Deque.eraseRange_self]
    · rw [if_pos h]
  simp only [herase]
  induction pre using List.reverseRecOn generalizing batch post s with
  | nil =>
    have hdrop := Deque.eraseRange_append [] batch post
    simp only [List.nil_append, List.length_nil] at hdrop
    simp only [List.nil_append, List.length_nil, ackBlockLoop, List.rtakeWhile_nil,
      List.rdropWhile_nil, List.filter_nil, List.reverse_nil, List.foldlM_nil]
    change k 0 (Deque.eraseRange (batch ++ post) 0 batch.length) s = k 0 post s
    rw [hdrop]
  | append_singleton pre p ih =>
    have hget : (pre ++ [p] ++ batch ++ post)[pre.length]? = some p := by
      rw [List.append_assoc]
      exact Deque.getElem?_concat_append pre (batch ++ post) p
    rw [List.length_append, List.length_singleton, ackBlockLoop, hget]
    by_cases hspace : pnSpace = p.packetNumberSpace
    · have hown : own pnSpace p = true := by simp [own, hspace]
      by_cases hbelow : p.packetNum < block.startPacket
      · -- the walk stops; what it has passed is erased
        have hpasses : ¬ passes pnSpace block p = true := by simp [passes, hspace, hbelow]
        rw [List.rdropWhile_concat_neg _ _ _ hpasses, List.rtakeWhile_concat_neg _ _ _ hpasses]
        have hdrop := Deque.eraseRange_append (pre ++ [p]) batch post
        rw [@List.length_append _ pre, List.length_singleton] at hdrop
        simp only [hspace, hbelow, ne_eq, not_true_eq_false, if_false, if_true]
        change k (pre.length + 1) _ s = _
        rw [hdrop]
        simp
      · have hpasses : passes pnSpace block p = true := by simp [passes, hbelow]
        rw [List.rdropWhile_concat_pos _ _ _ hpasses, List.rtakeWhile_concat_pos _ _ _ hpasses]
        simp only [hspace, hbelow, ne_eq, not_true_eq_false, if_false]
        rw [← hspace, List.filter_append, List.reverse_append, List.filter_append]
        have hfilter : [p].filter (own pnSpace) = [p] := by simp [hown]
        have hrest : [p].filter (fun p => !own pnSpace p) = [] := by simp [hown]
        rw [hfilter, hrest, List.reverse_singleton, List.singleton_append, List.foldlM_cons,
          bind_assoc, bind_assoc, List.append_nil]
        congr 1
        funext s
        have hih := ih ([p] ++ batch) post s
        simpa only [List.append_assoc] using hih
    · -- a packet of another space ends the batch
      have hforeign : own pnSpace p = false := by simp [own, Ne.symm hspace]
      have hpasses : passes pnSpace block p = true := by simp [passes, Ne.symm hspace]
      rw [List.rdropWhile_concat_pos _ _ _ hpasses, List.rtakeWhile_concat_pos _ _ _ hpasses,
        List.filter_append, List.filter_append]
      have hfilter : [p].filter (own pnSpace) = [] := by simp [hforeign]
      have hrest : [p].filter (fun p => !own pnSpace p) = [p] := by simp [hforeign]
      rw [hfilter, hrest, List.append_nil]
      have hdrop : (if pre.length + 1 ≠ (pre ++ [p] ++ batch).length then
            Deque.eraseRange (pre ++ [p] ++ batch ++ post) (pre.length + 1)
              (pre ++ [p] ++ batch).length
          else pre ++ [p] ++ batch ++ post) = pre ++ [] ++ ([p] ++ post) := by
        rw [herase]
        have happend := Deque.eraseRange_append (pre ++ [p]) batch post
        rw [@List.length_append _ pre, List.length_singleton] at happend
        rw [happend]
        simp
      have hih := ih [] ([p] ++ post) s
      simp only [ne_eq, hspace, not_false_eq_true, if_true]
      rw [← apply_ite (fun packets => ackBlockLoop step pnSpace block pre.length pre.length
        packets s)]
      simp only [ne_eq] at hdrop
      rw [hdrop]
      simpa only [List.append_nil, List.append_assoc] using hih

/-! ### All blocks -/

/-- Behind the walk over a block, only packets below the block are left. -/
theorem lt_start_of_rdropWhile (hsorted : SortedPackets pre)
    (hp : p ∈ pre.rdropWhile (passes pnSpace block)) : p.packetNum < block.startPacket := by
  have hne : pre.rdropWhile (passes pnSpace block) ≠ [] := List.ne_nil_of_mem hp
  have hlast := List.rdropWhile_last_not (passes pnSpace block) pre hne
  obtain ⟨-, hlt⟩ : own pnSpace ((pre.rdropWhile (passes pnSpace block)).getLast hne) = true ∧
      ((pre.rdropWhile (passes pnSpace block)).getLast hne).packetNum < block.startPacket := by
    simpa [passes, own] using hlast
  have hstay : SortedPackets (pre.rdropWhile (passes pnSpace block)) :=
    hsorted.sublist (List.rdropWhile_prefix _ _).sublist
  have hle : p.packetNum ≤ ((pre.rdropWhile (passes pnSpace block)).getLast hne).packetNum := by
    rw [← List.dropLast_append_getLast hne] at hp hstay
    rcases List.mem_append.mp hp with hp | hp
    · exact (List.pairwise_append.mp hstay).2.2 p hp _ (List.mem_singleton_self _)
    · rw [List.mem_singleton.mp hp]
  omega

/-- The packets up to the one at which the search stops are not above the block. -/
theorem le_end_of_front {init : List OutstandingPacket} {q : OutstandingPacket}
    (hsorted : SortedPackets (init ++ [q])) (hq : q.packetNum ≤ block.endPacket)
    (hp : p ∈ init ++ [q]) : p.packetNum ≤ block.endPacket := by
  rcases List.mem_append.mp hp with hp | hp
  · have hle := (List.pairwise_append.mp hsorted).2.2 p hp q (List.mem_singleton_self q)
    omega
  · rw [List.mem_singleton.mp hp]
    exact hq

theorem filter_acks_nil {packets : List OutstandingPacket}
    (hno : ∀ p ∈ packets, acks pnSpace blocks p = false) :
    packets.filter (acks pnSpace blocks) = [] ∧
      packets.filter (fun p => !acks pnSpace blocks p) = packets := by
  refine ⟨List.filter_eq_nil_iff.mpr fun p hp => ?_, List.filter_eq_self.mpr fun p hp => ?_⟩
  · rw [hno p hp]
    exact Bool.false_ne_true
  · rw [hno p hp]
    rfl

/-- What the walk over the first block has passed is acknowledged exactly when it is of the
space; what it has not reached is not acknowledged by this block. -/
theorem filter_acks_front {front : List OutstandingPacket} (hsorted : SortedPackets front)
    (hend : ∀ p ∈ front, p.packetNum ≤ block.endPacket) :
    front.filter (acks pnSpace (block :: blocks)) =
        (front.rdropWhile (passes pnSpace block)).filter (acks pnSpace blocks) ++
          (front.rtakeWhile (passes pnSpace block)).filter (own pnSpace) ∧
      front.filter (fun p => !acks pnSpace (block :: blocks) p) =
        (front.rdropWhile (passes pnSpace block)).filter (fun p => !acks pnSpace blocks p) ++
          (front.rtakeWhile (passes pnSpace block)).filter (fun p => !own pnSpace p) := by
  have hstay : ∀ p ∈ front.rdropWhile (passes pnSpace block),
      acks pnSpace (block :: blocks) p = acks pnSpace blocks p := by
    intro p hp
    have hlt := lt_start_of_rdropWhile hsorted hp
    have hnot : decide (block.startPacket ≤ p.packetNum) = false := by
      simpa using hlt
    rw [acks_cons, hnot, Bool.false_and, Bool.and_false, Bool.false_or]
  have hpassed : ∀ p ∈ front.rtakeWhile (passes pnSpace block),
      acks pnSpace (block :: blocks) p = own pnSpace p := by
    intro p hp
    have hmem : p ∈ front := (List.rtakeWhile_suffix _ _).subset hp
    have hle := hend p hmem
    have hpasses := List.mem_rtakeWhile_imp hp
    by_cases hspace : p.packetNumberSpace = pnSpace
    · have hge : block.startPacket ≤ p.packetNum := by
        simpa [passes, hspace] using hpasses
      rw [acks_cons]
      simp [own, hspace, hge, hle]
    · rw [acks_foreign hspace]
      simp [own, hspace]
  have hfront := List.rdropWhile_append_rtakeWhile (p := passes pnSpace block) (l := front)
  constructor
  · nth_rewrite 1 [← hfront]
    rw [List.filter_append, List.filter_congr hstay, List.filter_congr hpassed]
  · nth_rewrite 1 [← hfront]
    rw [List.filter_append]
    congr 1
    · exact List.filter_congr fun p hp => congrArg not (hstay p hp)
    · exact List.filter_congr fun p hp => congrArg not (hpassed p hp)

/-- The loop over the blocks. What lies behind the iterator is not acknowledged. -/
theorem ackBlocksLoop_eq (hblocks : Descending blocks) (hsorted : SortedPackets (pre ++ post))
    (hpost : ∀ p ∈ post, acks pnSpace blocks p = false) :
    ackBlocksLoop step pnSpace blocks pre.length (pre ++ post) s =
      ((pre.filter (acks pnSpace blocks)).reverse.foldlM step s >>= fun s =>
        .ok (pre.filter (fun p => !acks pnSpace blocks p) ++ post, s)) := by
  induction blocks generalizing pre post s with
  | nil =>
    obtain ⟨hnil, hself⟩ := @filter_acks_nil pnSpace [] pre fun p _ => acks_nil
    rw [hnil, hself]
    rfl
  | cons block blocks ih =>
    have hdone : (∀ p ∈ pre, acks pnSpace (block :: blocks) p = false) →
        Except.ok (pre ++ post, s) =
          ((pre.filter (acks pnSpace (block :: blocks))).reverse.foldlM step s >>= fun s =>
            Except.ok (pre.filter (fun p => !acks pnSpace (block :: blocks) p) ++ post, s)) := by
      intro hno
      obtain ⟨hnil, hself⟩ := filter_acks_nil hno
      rw [hnil, hself]
      rfl
    rw [ackBlocksLoop]
    by_cases hzero : pre.length = 0
    · rw [if_pos hzero]
      refine hdone fun p hp => ?_
      rw [List.length_eq_zero_iff.mp hzero] at hp
      cases hp
    rw [if_neg hzero]
    obtain ⟨front, skipped, rfl, hfind, hskipped, hfront⟩ :=
      Deque.rfind_split (fun p => p.packetNum ≤ block.endPacket) pre post
    have habove : ∀ p ∈ skipped, acks pnSpace (block :: blocks) p = false := by
      intro p hp
      exact hblocks.acks_above (by simpa using hskipped p hp)
    rw [hfind]
    rcases hfront with rfl | ⟨init, q, rfl, hq⟩
    · exact hdone (by simpa using habove)
    have hne : ¬ (init ++ [q]).length = 0 := by simp
    rw [if_neg hne]
    have hsplit : SortedPackets (init ++ [q]) ∧ SortedPackets (skipped ++ post) := by
      rw [List.append_assoc] at hsorted
      exact ⟨(List.pairwise_append.mp hsorted).1, (List.pairwise_append.mp hsorted).2.1⟩
    have hend : ∀ p ∈ init ++ [q], p.packetNum ≤ block.endPacket :=
      fun p hp => le_end_of_front hsplit.1 (by simpa using hq) hp
    obtain ⟨hfilter, hrest⟩ := @filter_acks_front pnSpace block blocks _ hsplit.1 hend
    obtain ⟨hnil, hself⟩ := filter_acks_nil habove
    have hloop := @ackBlockLoop_eq _ _ pnSpace block step _ (init ++ [q]) [] (skipped ++ post) s
      (fun b packets s => ackBlocksLoop step pnSpace blocks b packets s)
    rw [List.append_nil, ← List.append_assoc] at hloop
    refine hloop.trans ?_
    rw [List.filter_append, hnil, List.append_nil, hfilter, List.reverse_append,
      List.foldlM_append, bind_assoc]
    congr 1
    funext s
    have hlater : ∀ p ∈ (List.rtakeWhile (passes pnSpace block) (init ++ [q])).filter
        (fun p => !own pnSpace p) ++ (skipped ++ post), acks pnSpace blocks p = false := by
      intro p hp
      rcases List.mem_append.mp hp with hp | hp
      · have hforeign := (List.mem_filter.mp hp).2
        exact acks_foreign (by simpa [own] using hforeign)
      · have hcons : acks pnSpace (block :: blocks) p = false := by
          rcases List.mem_append.mp hp with hp | hp
          · exact habove p hp
          · exact hpost p hp
        rw [acks_cons] at hcons
        exact (Bool.or_eq_false_iff.mp hcons).2
    have hsub : List.Sublist
        (List.rdropWhile (passes pnSpace block) (init ++ [q]) ++
          ((List.rtakeWhile (passes pnSpace block) (init ++ [q])).filter
            (fun p => !own pnSpace p) ++ (skipped ++ post)))
        (init ++ [q] ++ skipped ++ post) := by
      nth_rewrite 3 [← List.rdropWhile_append_rtakeWhile (p := passes pnSpace block)
        (l := init ++ [q])]
      rw [List.append_assoc, List.append_assoc]
      exact (List.Sublist.refl _).append
        ((List.filter_sublist).append (List.Sublist.refl _))
    rw [ih hblocks.tail (hsorted.sublist hsub) hlater]
    rw [List.filter_append, hself, hrest]
    simp only [List.append_assoc]

/-- The loop as a whole: the acknowledged packets are handled from the largest number
down, and exactly they leave the queue. -/
theorem collectAcked_eq (h : Handlers σ ε) (frame : ReadAckFrame) (times : AckTimes)
    (c : SendConn σ) (hsorted : SortedPackets c.outstandings.packets) :
    collectAcked h pnSpace frame times c =
      ((c.outstandings.packets.filter (acks pnSpace frame.ackBlocks)).reverse.foldlM
        (ackPacket h frame times) (AckLoop.start c) >>= fun s =>
        .ok (c.outstandings.packets.filter (fun p => !acks pnSpace frame.ackBlocks p), s)) := by
  obtain ⟨front, skipped, hsplit, hfind, hskipped, -⟩ :=
    Deque.rfind_split (fun p : OutstandingPacket => p.packetNumberSpace == pnSpace)
      c.outstandings.packets []
  have hforeign : ∀ p ∈ skipped, acks pnSpace frame.ackBlocks p = false :=
    fun p hp => acks_foreign (by simpa using hskipped p hp)
  obtain ⟨hnil, hself⟩ := filter_acks_nil hforeign
  rw [List.append_nil] at hfind
  rw [collectAcked, hfind, hsplit, ackBlocksLoop_eq frame.descending (hsplit ▸ hsorted) hforeign,
    List.filter_append, List.filter_append, hnil, hself, List.append_nil]

/-! ### Implicit acks -/

theorem foldl_min_le_le_max (first : Nat) (others : List Nat) :
    ∀ n ∈ first :: others, others.foldl min first ≤ n ∧ n ≤ others.foldl max first := by
  induction others generalizing first with
  | nil =>
    intro n hn
    rw [List.mem_singleton.mp hn]
    exact ⟨le_rfl, le_rfl⟩
  | cons m others ih =>
    rw [List.foldl_cons, List.foldl_cons]
    have hmin : others.foldl min (min first m) ≤ min first m :=
      (ih (min first m) _ List.mem_cons_self).1
    have hmax : max first m ≤ others.foldl max (max first m) :=
      (ih (max first m) _ List.mem_cons_self).2
    refine List.forall_mem_cons.mpr ⟨?_, List.forall_mem_cons.mpr ⟨?_, fun n hn => ?_⟩⟩
    · exact ⟨hmin.trans (min_le_left _ _), (le_max_left _ _).trans hmax⟩
    · exact ⟨hmin.trans (min_le_right _ _), (le_max_right _ _).trans hmax⟩
    · exact ⟨(ih (min first m) n (List.mem_cons_of_mem _ hn)).1,
        (ih (max first m) n (List.mem_cons_of_mem _ hn)).2⟩

/-- The ack frame that `implicitAckCryptoStream` builds from the numbers of the outstanding
packets: one block from the smallest to the largest. -/
def implicitAck (first : Nat) (others : List Nat) : ReadAckFrame where
  largestAcked := others.foldl max first
  ackDelay := 0
  implicit := true
  ackBlocks := [⟨others.foldl min first, others.foldl max first⟩]
  descending := by
    refine ⟨?_, List.pairwise_singleton _ _⟩
    have hfirst := foldl_min_le_le_max first others first List.mem_cons_self
    exact List.forall_mem_singleton.mpr (hfirst.1.trans hfirst.2)

theorem acks_implicitAck {first : Nat} {others : List Nat}
    (hnums : (packets.filter (own pnSpace)).map (·.packetNum) = first :: others)
    (hp : p ∈ packets) (hspace : p.packetNumberSpace = pnSpace) :
    acks pnSpace (implicitAck first others).ackBlocks p = true := by
  have hnum : p.packetNum ∈ first :: others := by
    rw [← hnums]
    exact List.mem_map_of_mem (List.mem_filter.mpr ⟨hp, by simpa [own] using hspace⟩)
  exact acks_iff.mpr
    ⟨hspace, _, List.mem_singleton_self _, foldl_min_le_le_max first others _ hnum⟩

end MasqueQuic
