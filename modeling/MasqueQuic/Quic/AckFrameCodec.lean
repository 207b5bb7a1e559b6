/-
ACK frames, written and read back.

An ACK frame is a list of numbers (`ackInts`): the fields that are always there, then a gap and a
length for each further interval. The writer decides how many intervals to send while it adds up
sizes; `fillFrameWithAckBlocks_spec` says that it stops at the last number of intervals for which the
whole list still fits, with the block count at the size it has in the end. The reader undoes the gaps
one after the other (`accepts_decodeAckBlocks`).
-/

import MasqueQuic.Quic.AckWriting
import MasqueQuic.Quic.ControlFrameCodec
import Mathlib.Order.Bounds.Basic

namespace MasqueQuic

open WireField (int)

/-! ### Lists of numbers -/

/-- The width of the shortest encoding. -/
def intSize (v : Nat) : Nat := (getQuicIntegerSize v).getD 0

def intsSize (vs : List Nat) : Nat := (vs.map intSize).sum

theorem intsSize_cons (v : Nat) (vs : List Nat) : intsSize (v :: vs) = intSize v + intsSize vs := by
  rw [intsSize, List.map_cons, List.sum_cons]
  rfl

theorem intsSize_append (vs ws : List Nat) : intsSize (vs ++ ws) = intsSize vs + intsSize ws := by
  rw [intsSize, List.map_append, List.sum_append]
  rfl

theorem intSize_encode {v : Nat} {e : Bytes} (h : encodeQuicInteger v = some e) :
    intSize v = e.length := by
  rw [intSize, getQuicIntegerSize_encode h]
  rfl

theorem getSize_int {v : Nat} (h : v < 2 ^ 62) : (int v).getSize = .ok (intSize v) := by
  obtain ⟨e, he⟩ := encodeQuicInteger_of_lt h
  rw [WireField.getSize, integerSize_encode he, intSize_encode he]

theorem intSize_mono {v w : Nat} (h : v ≤ w) (hw : w < 2 ^ 62) : intSize v ≤ intSize w := by
  unfold intSize getQuicIntegerSize kOneByteLimit kTwoByteLimit kFourByteLimit kEightByteLimit
  split_ifs <;> simp <;> omega

/-- Numbers below 2^62 have an encoding. -/
theorem exists_encoded_ints {vs : List Nat} (h : ∀ v ∈ vs, v < 2 ^ 62) :
    ∃ e, Encoded (vs.map int) e := by
  induction vs with
  | nil => exact ⟨[], .nil⟩
  | cons v vs ih =>
    obtain ⟨e, he⟩ := encodeQuicInteger_of_lt (h v List.mem_cons_self)
    obtain ⟨es, hes⟩ := ih fun w hw => h w (List.mem_cons_of_mem v hw)
    exact ⟨e ++ es, .int he hes⟩

theorem Encoded.length_ints {vs : List Nat} {e : Bytes} (h : Encoded (vs.map .int) e) :
    e.length = intsSize vs := by
  induction vs generalizing e with
  | nil => rw [h.nil_inv]; rfl
  | cons v vs ih =>
    obtain ⟨front, back, hfront, hback, rfl⟩ := h.int_inv
    rw [List.length_append, ih hback, intsSize_cons, intSize_encode hfront]

/-- The shortest encodings are encodings. -/
theorem Encoded.many {vs : List Nat} {e : Bytes} (h : Encoded (vs.map .int) e) :
    Format.Many Varint vs e := by
  induction vs generalizing e with
  | nil =>
    rw [h.nil_inv]
    exact .nil
  | cons v vs ih =>
    obtain ⟨front, back, hfront, hback, rfl⟩ := h.int_inv
    exact .cons (encodeQuicInteger_varint hfront) (ih hback)

theorem fieldsSize_ints {vs : List Nat} (h : ∀ v ∈ vs, v < 2 ^ 62) :
    fieldsSize (vs.map int) = .ok (intsSize vs) := by
  obtain ⟨e, he⟩ := exists_encoded_ints h
  rw [he.size, he.length_ints]

theorem Encoded.append_ints {vs ws : List Nat} {e : Bytes} (h : Encoded ((vs ++ ws).map .int) e) :
    ∃ front back, Encoded (vs.map .int) front ∧ Encoded (ws.map .int) back ∧ e = front ++ back := by
  induction vs generalizing e with
  | nil => exact ⟨[], e, .nil, h, rfl⟩
  | cons v vs ih =>
    obtain ⟨first, rest, hfirst, hrest, rfl⟩ := h.int_inv
    obtain ⟨front, back, hfront, hback, rfl⟩ := ih hrest
    exact ⟨first ++ front, back, .int hfirst hfront, hback, (List.append_assoc _ _ _).symm⟩

/-! ### Intervals -/

/-- Each interval ends at least two numbers below the one before it, the first one below `current`. -/
inductive BlocksBelow : Nat → List AckBlock → Prop
  | nil {current : Nat} : BlocksBelow current []
  | cons {current : Nat} {block : AckBlock} {blocks : List AckBlock} :
      block.startPacket ≤ block.endPacket → block.endPacket + 2 ≤ current →
      BlocksBelow block.startPacket blocks → BlocksBelow current (block :: blocks)

theorem BlocksBelow.take {current : Nat} {blocks : List AckBlock} (h : BlocksBelow current blocks)
    (m : Nat) : BlocksBelow current (blocks.take m) := by
  induction h generalizing m with
  | nil => rw [List.take_nil]; exact .nil
  | cons hinterval hbelow _ ih =>
    cases m with
    | zero => exact .nil
    | succ m => exact .cons hinterval hbelow (ih m)

/-- The gaps and the lengths of the intervals below `current`. -/
def blockInts : Nat → List AckBlock → List Nat
  | _, [] => []
  | current, block :: blocks =>
      (current - block.endPacket - 2) :: (block.endPacket - block.startPacket) ::
        blockInts block.startPacket blocks

theorem BlocksBelow.ints_lt {current : Nat} {blocks : List AckBlock} (h : BlocksBelow current blocks)
    (hcurrent : current < 2 ^ 62) : ∀ v ∈ blockInts current blocks, v < 2 ^ 62 := by
  induction h with
  | nil => exact List.forall_mem_nil _
  | cons hinterval hbelow _ ih =>
    refine List.forall_mem_cons.mpr ⟨by omega, List.forall_mem_cons.mpr ⟨by omega, ih (by omega)⟩⟩

/-- There are fewer intervals than numbers. -/
theorem BlocksBelow.length_le {current : Nat} {blocks : List AckBlock}
    (h : BlocksBelow current blocks) : blocks.length ≤ current := by
  induction h with
  | nil => exact Nat.zero_le _
  | cons hinterval hbelow _ ih =>
    rw [List.length_cons]
    omega

theorem BlocksBelow.size_take_mono {current : Nat} {blocks : List AckBlock}
    (h : BlocksBelow current blocks) {m j : Nat} (hmj : m ≤ j) :
    intsSize (blockInts current (blocks.take m)) ≤ intsSize (blockInts current (blocks.take j)) := by
  induction h generalizing m j with
  | nil => rw [List.take_nil, List.take_nil]
  | cons _ _ _ ih =>
    cases m with
    | zero => exact Nat.zero_le _
    | succ m =>
      cases j with
      | zero => omega
      | succ j =>
        have hrest := ih (show m ≤ j by omega)
        simp only [List.take_succ_cons, blockInts, intsSize_cons]
        omega

/-- The loop stops at the last number of intervals that fits. -/
theorem fillFrameWithAckBlocks_spec {current : Nat} {blocks : List AckBlock}
    (h : BlocksBelow current blocks) {n limit : Nat} (hn : n + current < 2 ^ 62) :
    ∃ m ≤ blocks.length,
      fillFrameWithAckBlocks current n n limit blocks = .ok (blocks.take m, n + m) ∧
      intsSize (blockInts current (blocks.take m)) + intSize (n + m) ≤ limit + intSize n ∧
      (m < blocks.length → limit + intSize n <
        intsSize (blockInts current (blocks.take (m + 1))) + intSize (n + (m + 1))) := by
  induction h generalizing n limit with
  | nil => exact ⟨0, Nat.le_refl _, rfl, by simp [blockInts, intsSize], fun hlt => absurd hlt (by simp)⟩
  | @cons current block blocks hinterval hbelow hblocks ih =>
    have hgap := getSize_int (show current - block.endPacket - 2 < 2 ^ 62 by omega)
    have hlen := getSize_int (show block.endPacket - block.startPacket < 2 ^ 62 by omega)
    have hcount := getSize_int (show n + 1 < 2 ^ 62 by omega)
    have hprevious := getSize_int (show n < 2 ^ 62 by omega)
    have hgrows := intSize_mono (show n ≤ n + 1 by omega) (show n + 1 < 2 ^ 62 by omega)
    unfold fillFrameWithAckBlocks
    rw [if_neg (Nat.not_lt.mpr hbelow)]
    dsimp only
    rw [hgap, except_ok_bind, hlen, except_ok_bind, hcount, except_ok_bind, hprevious,
      except_ok_bind]
    generalize hcost : intSize (current - block.endPacket - 2) +
      intSize (block.endPacket - block.startPacket) + (intSize (n + 1) - intSize n) = cost
    by_cases hfits : limit < cost
    · refine ⟨0, Nat.zero_le _, if_pos hfits, ?_, fun _ => ?_⟩
      · have hnil : intsSize (blockInts current ((block :: blocks).take 0)) = 0 := rfl
        rw [Nat.add_zero]
        omega
      · simp only [Nat.zero_add, List.take_succ_cons, List.take_zero, blockInts, intsSize_cons]
        have hnil : intsSize [] = 0 := rfl
        omega
    · obtain ⟨m, hm, hfill, hle, hgreatest⟩ :=
        @ih (n + 1) (limit - cost) (by omega)
      have hcounts : n + 1 + m = n + (m + 1) := by omega
      refine ⟨m + 1, Nat.succ_le_succ hm, ?_, ?_, fun hlt => ?_⟩
      · rw [if_neg hfits, hfill, except_ok_bind, List.take_succ_cons, hcounts]
        rfl
      · rw [hcounts] at hle
        simp only [List.take_succ_cons, blockInts, intsSize_cons]
        omega
      · have hnext := hgreatest (Nat.lt_of_succ_lt_succ hlt)
        rw [show n + 1 + (m + 1) = n + (m + 1 + 1) by omega] at hnext
        rw [List.take_succ_cons]
        simp only [blockInts, intsSize_cons]
        omega

/-! ### Writing -/

theorem writeAckBlocks_eq {current : Nat} {blocks : List AckBlock} (h : BlocksBelow current blocks)
    (b : PacketBuilder) :
    writeAckBlocks b current blocks = writeFields b ((blockInts current blocks).map int) := by
  induction h generalizing b with
  | nil => rfl
  | cons hinterval hbelow _ ih =>
    unfold writeAckBlocks
    rw [if_neg (Nat.not_lt.mpr hbelow)]
    simp only [ih, blockInts, List.map_cons, writeFields, List.foldlM_cons, List.foldlM_nil,
      bind_assoc, pure_bind]

/-- What comes after the type: `largest` is the first interval. -/
def ackFieldInts (delay : Nat) (largest : AckBlock) (added : List AckBlock) : List Nat :=
  [largest.endPacket, delay, added.length, largest.endPacket - largest.startPacket] ++
    blockInts largest.startPacket added

/-- The numbers of an ACK frame with these intervals. -/
def ackInts (code delay : Nat) : List AckBlock → List Nat
  | [] => []
  | largest :: added => code :: ackFieldInts delay largest added

namespace WriteAckFrameMetaData

/-- The numbers of the frame with the `k` highest intervals. -/
def ints (m : WriteAckFrameMetaData) (frameType : AckFrameType) (k : Nat) : List Nat :=
  ackInts frameType.code m.encodedAckDelay (m.ackState.acks.intervals.reverse.take k)

/-- The frame with the `k` highest intervals takes at most `space` bytes. -/
def AckFits (m : WriteAckFrameMetaData) (frameType : AckFrameType) (k space : Nat) : Prop :=
  ∃ bytes, Encoded ((m.ints frameType k).map int) bytes ∧ bytes.length ≤ space

end WriteAckFrameMetaData

theorem AckBlocks.below {acks : AckBlocks} {largest : AckBlock} {blocks : List AckBlock}
    (h : acks.intervals.reverse = largest :: blocks) : BlocksBelow largest.startPacket blocks := by
  have hinterval : ∀ block ∈ largest :: blocks, block.startPacket ≤ block.endPacket := by
    intro block hblock
    rw [← h, List.mem_reverse] at hblock
    exact acks.interval block hblock
  have hapart : (largest :: blocks).Pairwise fun a b => b.endPacket + 2 ≤ a.startPacket := by
    rw [← h, List.pairwise_reverse]
    exact acks.apart
  clear h
  induction blocks generalizing largest with
  | nil => exact .nil
  | cons block blocks ih =>
    have hinterval' := (List.forall_mem_cons.mp hinterval).2
    rw [List.pairwise_cons] at hapart
    exact .cons (hinterval' block List.mem_cons_self) (hapart.1 block List.mem_cons_self)
      (ih hinterval' hapart.2)

section Write

variable {m : WriteAckFrameMetaData} {b : PacketBuilder} {frameType : AckFrameType}
  {largest : AckBlock} {blocks : List AckBlock} {minAdditional : Nat}

theorem AckFrameType.code_lt (frameType : AckFrameType) : frameType.code < 2 ^ 62 := by
  cases frameType <;> decide

theorem BlocksBelow.ackInts_lt {delay : Nat} (h : BlocksBelow largest.startPacket blocks)
    (hinterval : largest.startPacket ≤ largest.endPacket) (hlargest : largest.endPacket < 2 ^ 62)
    (hdelay : delay < 2 ^ 62) (frameType : AckFrameType) :
    ∀ v ∈ ackInts frameType.code delay (largest :: blocks), v < 2 ^ 62 := by
  have hcode := frameType.code_lt
  have hcount := h.length_le
  intro v hv
  rw [ackInts, ackFieldInts, ← List.cons_append] at hv
  rcases List.mem_append.mp hv with hv | hv
  · simp only [List.mem_cons, List.not_mem_nil, or_false] at hv
    omega
  · exact h.ints_lt (by omega) v hv

theorem intsSize_ackInts (code delay : Nat) (largest : AckBlock) (added : List AckBlock) :
    intsSize (ackInts code delay (largest :: added)) =
      intSize code + intSize largest.endPacket + intSize delay +
        intSize (largest.endPacket - largest.startPacket) +
        (intsSize (blockInts largest.startPacket added) + intSize added.length) := by
  rw [ackInts, ackFieldInts, ← List.cons_append, intsSize_append]
  simp only [intsSize_cons]
  have hnil : intsSize [] = 0 := rfl
  omega

/-- Nothing is written if the frame with one interval does not fit beside the further fields.
Otherwise the frame is written with as many intervals as fit. -/
theorem writeAckFrameToPacketBuilder_spec
    (hacks : m.ackState.acks.intervals.reverse = largest :: blocks)
    (hlargest : largest.endPacket < 2 ^ 62) (hdelay : m.encodedAckDelay < 2 ^ 62)
    (hmin : m.minAdditionalAckReceiveTimestampsFieldsSize frameType = .ok minAdditional) :
    (b.remainingBytes.toNat < intsSize (m.ints frameType 1) + minAdditional ∧
      writeAckFrameToPacketBuilder m b frameType = .ok (none, b)) ∨
    ∃ added frame bytes b', added ≤ blocks.length ∧
      writeAckFrameToPacketBuilder m b frameType = .ok (some frame, b') ∧
      frame = ⟨largest :: blocks.take added, m.ackDelay, frameType, none, none, []⟩ ∧
      Encoded ((m.ints frameType (added + 1)).map int) bytes ∧ b.Written bytes b' ∧
      bytes.length + minAdditional ≤ b.remainingBytes.toNat ∧
      ∀ j, added + 1 < j → j ≤ blocks.length + 1 →
        b.remainingBytes.toNat < intsSize (m.ints frameType j) + minAdditional := by
  have hbelow := AckBlocks.below hacks
  have hinterval : largest.startPacket ≤ largest.endPacket := by
    apply m.ackState.acks.interval
    rw [← List.mem_reverse, hacks]
    exact List.mem_cons_self
  have hints : ∀ k, m.ints frameType (k + 1) =
      ackInts frameType.code m.encodedAckDelay (largest :: blocks.take k) := by
    intro k
    rw [WriteAckFrameMetaData.ints, hacks, List.take_succ_cons]
  have hheader : fieldsSize [int frameType.code, int largest.endPacket, int m.encodedAckDelay,
      int 0, int (largest.endPacket - largest.startPacket)] = .ok (intsSize (m.ints frameType 1)) := by
    rw [hints 0]
    exact fieldsSize_ints (hbelow.take 0 |>.ackInts_lt hinterval hlargest hdelay frameType)
  unfold writeAckFrameToPacketBuilder
  rw [hacks]
  dsimp only
  rw [hheader, except_ok_bind, hmin, except_ok_bind]
  by_cases hspace : b.remainingBytes.toNat < intsSize (m.ints frameType 1) + minAdditional
  · exact .inl ⟨hspace, if_pos hspace⟩
  · rw [if_neg hspace]
    obtain ⟨added, hadded, hfill, hle, hgreatest⟩ := @fillFrameWithAckBlocks_spec _ _ hbelow 0
      (b.remainingBytes.toNat - (intsSize (m.ints frameType 1) + minAdditional)) (by omega)
    have hlength : ∀ k ≤ blocks.length, (blocks.take k).length = k := by
      intro k hk
      rw [List.length_take, Nat.min_eq_left hk]
    have hsize : ∀ k ≤ blocks.length, intsSize (m.ints frameType (k + 1)) + 1 =
        intsSize (m.ints frameType 1) +
          (intsSize (blockInts largest.startPacket (blocks.take k)) + intSize k) := by
      intro k hk
      have hzero : intsSize (blockInts largest.startPacket (blocks.take 0)) = 0 := rfl
      have hone : intSize 0 = 1 := rfl
      have hfirst := hints 0
      rw [Nat.zero_add] at hfirst
      rw [hints k, hfirst, intsSize_ackInts, intsSize_ackInts, hlength k hk,
        hlength 0 (Nat.zero_le _)]
      omega
    have hone : intSize 0 = 1 := rfl
    rw [Nat.zero_add] at hfill hle
    obtain ⟨bytes, hbytes⟩ := exists_encoded_ints
      ((hbelow.take added).ackInts_lt hinterval hlargest hdelay frameType)
    rw [ackInts, ackFieldInts, ← List.cons_append] at hbytes
    obtain ⟨front, back, hfront, hback, rfl⟩ := hbytes.append_ints
    rw [hlength added hadded] at hfront
    obtain ⟨b₁, hwrite₁, hwritten₁⟩ := hfront.written (PacketBuilder.Written.refl b)
    obtain ⟨b₂, hwrite₂, hwritten₂⟩ := hback.written hwritten₁
    rw [List.cons_append, ← ackFieldInts, ← ackInts, ← hints added] at hbytes
    refine .inr ⟨added, ⟨largest :: blocks.take added, m.ackDelay, frameType, none, none, []⟩,
      front ++ back, b₂, hadded, ?_, rfl, hbytes, hwritten₂, ?_, ?_⟩
    · rw [hfill, except_ok_bind]
      dsimp only
      rw [show writeFields b [int frameType.code, int largest.endPacket, int m.encodedAckDelay,
          int added, int (largest.endPacket - largest.startPacket)] = .ok b₁ from hwrite₁,
        except_ok_bind, writeAckBlocks_eq (hbelow.take added), hwrite₂]
      rfl
    · have hadd := hsize added hadded
      rw [hbytes.length_ints]
      omega
    · intro j hj hjle
      obtain ⟨k, rfl⟩ : ∃ k, j = k + 1 := ⟨j - 1, by omega⟩
      have hk : k ≤ blocks.length := by omega
      have hnext := hgreatest (by omega)
      rw [Nat.zero_add] at hnext
      have hadd := hsize k hk
      have hmore := hbelow.size_take_mono (show added + 1 ≤ k by omega)
      have hlen := hbelow.length_le
      have hcount := intSize_mono (show added + 1 ≤ k by omega) (by omega)
      omega

end Write

/-! ### Reading -/

theorem accepts_nextAckedPacketGap {current gap : Nat} {n : { n : Nat // n < current }}
    (h : gap + 2 + n = current) : Accepts (nextAckedPacketGap current gap) [] n := by
  intro t
  have hrun : nextAckedPacketGap current gap t = .ok (⟨current - (gap + 2), by omega⟩, t) :=
    dif_neg (by omega)
  have hn : (⟨current - (gap + 2), by omega⟩ : { n : Nat // n < current }) = n :=
    Subtype.ext (by dsimp only; omega)
  rw [hn] at hrun
  exact hrun

theorem accepts_nextAckedPacketLen {current len : Nat} {n : { n : Nat // n ≤ current }}
    (h : len + n = current) : Accepts (nextAckedPacketLen current len) [] n := by
  intro t
  have hrun : nextAckedPacketLen current len t = .ok (⟨current - len, Nat.sub_le _ _⟩, t) :=
    if_neg (by omega)
  have hn : (⟨current - len, Nat.sub_le _ _⟩ : { n : Nat // n ≤ current }) = n :=
    Subtype.ext (by dsimp only; omega)
  rw [hn] at hrun
  exact hrun

/-- The gaps are undone from the highest interval down. -/
theorem accepts_decodeAckBlocks {current : Nat} {blocks : List AckBlock}
    (h : BlocksBelow current blocks) {e : Bytes}
    (he : Format.Many Varint (blockInts current blocks) e) :
    ∃ decoded, Accepts (decodeAckBlocks blocks.length current) e decoded ∧
      decoded.val = blocks := by
  induction h generalizing e with
  | nil =>
    cases he
    exact ⟨_, .pure _, rfl⟩
  | @cons current block blocks hinterval hbelow hblocks ih =>
    obtain ⟨gapBytes, back, hgap, hback, rfl⟩ := he.uncons
    obtain ⟨lenBytes, rest, hlen, hrest, rfl⟩ := hback.uncons
    obtain ⟨decoded, hdecoded, hval⟩ := ih hrest
    have hend : Accepts (nextAckedPacketGap current (current - block.endPacket - 2)) []
        ⟨block.endPacket, by omega⟩ := accepts_nextAckedPacketGap (by dsimp only; omega)
    have hstart : Accepts (nextAckedPacketLen block.endPacket
        (block.endPacket - block.startPacket)) [] ⟨block.startPacket, hinterval⟩ :=
      accepts_nextAckedPacketLen (by dsimp only; omega)
    refine ⟨⟨block :: decoded.val, .cons hinterval decoded.property.1 decoded.property.2,
      List.forall_mem_cons.mpr ⟨by omega, fun other hother => by
        have hother := decoded.property.2 other hother
        omega⟩⟩, ?_, congrArg (block :: ·) hval⟩
    have hbytes : gapBytes ++ (lenBytes ++ ([] ++ ([] ++ (rest ++ [])))) =
        gapBytes ++ (lenBytes ++ rest) := by
      rw [List.nil_append, List.nil_append, List.append_nil]
    rw [← hbytes]
    exact (accepts_integer hgap _).bind ((accepts_integer hlen _).bind (hend.bind (hstart.bind
      (hdecoded.bind (.pure _)))))

/-! ### Delays -/

/-- The overflow mask covers the bits from `s` up. -/
theorem and_highMask {v s : Nat} (hv : v < 2 ^ 64) (hs : s ≤ 64) :
    v &&& ((2 ^ 64 - 1) <<< s % 2 ^ 64) = v / 2 ^ s * 2 ^ s := by
  have hsplit : 2 ^ 64 = 2 ^ (64 - s) * 2 ^ s := by
    rw [← Nat.pow_add, Nat.sub_add_cancel hs]
  have hhigh : v / 2 ^ s < 2 ^ (64 - s) := by
    rw [Nat.div_lt_iff_lt_mul (Nat.two_pow_pos s), ← hsplit]
    exact hv
  apply Nat.eq_of_testBit_eq
  intro i
  rw [← Nat.shiftLeft_eq, ← Nat.shiftRight_eq_div_pow, Nat.testBit_and, Nat.testBit_mod_two_pow,
    Nat.testBit_shiftLeft, Nat.testBit_shiftLeft, Nat.testBit_two_pow_sub_one,
    Nat.testBit_shiftRight]
  by_cases hi : i < 64
  · by_cases his : s ≤ i
    · have hmask : i - s < 64 := by omega
      simp [hi, his, hmask]
    · simp [his]
  · have hzero : v.testBit i = false :=
      Nat.testBit_lt_two_pow (hv.trans_le (Nat.pow_le_pow_right (by decide) (by omega)))
    by_cases his : s ≤ i
    · rw [show s + (i - s) = i by omega, hzero, Bool.false_and, Bool.and_false]
    · rw [hzero, decide_eq_false his, Bool.false_and, Bool.false_and]

section Delay

variable {p : CodecParameters} {exponent delay : Nat}

theorem delayOverflowMask_eq (hlow : 1 ≤ exponent) (hhigh : exponent < 64) (hdelay : delay < 2 ^ 64) :
    delay &&& p.shiftLeft 0xFFFFFFFFFFFFFFFF ((64 + 2 ^ 8 - exponent % 2 ^ 8) % 2 ^ 8) =
      delay / 2 ^ (64 - exponent) * 2 ^ (64 - exponent) := by
  have hshift : (64 + 2 ^ 8 - exponent % 2 ^ 8) % 2 ^ 8 = 64 - exponent := by omega
  rw [hshift, CodecParameters.shiftLeft, if_pos (by omega)]
  exact and_highMask hdelay (by omega)

theorem mul_two_pow_lt_iff (hhigh : exponent < 64) :
    delay / 2 ^ (64 - exponent) = 0 ↔ delay * 2 ^ exponent < 2 ^ 64 := by
  have hsplit : 2 ^ 64 = 2 ^ (64 - exponent) * 2 ^ exponent := by
    rw [← Nat.pow_add, Nat.sub_add_cancel (by omega)]
  rw [Nat.div_eq_zero_iff_lt (Nat.two_pow_pos _), hsplit,
    Nat.mul_lt_mul_right (Nat.two_pow_pos exponent)]

/-- A delay that fits in a signed word is decoded as it was sent. -/
theorem accepts_convertEncodedDuration (hlow : 1 ≤ exponent) (hhigh : exponent < 64)
    (hfits : delay * 2 ^ exponent ≤ 2 ^ 63 - 1) :
    Accepts (p.convertEncodedDurationToMicroseconds exponent delay) [] (delay * 2 ^ exponent) := by
  have hword : delay * 2 ^ exponent < 2 ^ 64 := by omega
  have hdelay : delay < 2 ^ 64 := Nat.lt_of_le_of_lt (Nat.le_mul_of_pos_right _ (Nat.two_pow_pos _)) hword
  have hmask := delayOverflowMask_eq (p := p) hlow hhigh hdelay
  rw [(mul_two_pow_lt_iff hhigh).mpr hword, Nat.zero_mul] at hmask
  have hadjusted : p.shiftLeft delay exponent = delay * 2 ^ exponent := by
    rw [CodecParameters.shiftLeft, if_pos hhigh, Nat.shiftLeft_eq, Nat.mod_eq_of_lt hword]
  have hfirst := accepts_throwIf "Decoded delay overflows" (c := (0 : Nat) != 0) rfl
  have hsecond := accepts_throwIf "Bad delay" (decide_eq_false (Nat.not_lt.mpr hfits))
  unfold CodecParameters.convertEncodedDurationToMicroseconds
  dsimp only
  rw [hmask, hadjusted]
  exact hfirst.bind (hsecond.bind (.pure _))

/-- The other delays are refused, one way or the other. -/
theorem faults_convertEncodedDuration (hlow : 1 ≤ exponent) (hhigh : exponent < 64)
    (hdelay : delay < 2 ^ 64) (hlarge : 2 ^ 63 - 1 < delay * 2 ^ exponent) :
    Faults (p.convertEncodedDurationToMicroseconds exponent delay) [] (.exception
      (if delay * 2 ^ exponent < 2 ^ 64 then "Bad delay" else "Decoded delay overflows")) := by
  unfold CodecParameters.convertEncodedDurationToMicroseconds
  dsimp only
  rw [delayOverflowMask_eq hlow hhigh hdelay]
  by_cases hword : delay * 2 ^ exponent < 2 ^ 64
  · rw [(mul_two_pow_lt_iff hhigh).mpr hword, Nat.zero_mul, CodecParameters.shiftLeft, if_pos hhigh,
      Nat.shiftLeft_eq, Nat.mod_eq_of_lt hword, if_pos hword]
    exact (accepts_throwIf _ rfl).bind_faults (.bind (.guard _ (by rw [decide_eq_true hlarge]; rfl) _) _)
  · have hmask : (delay / 2 ^ (64 - exponent) * 2 ^ (64 - exponent) != 0) = true := by
      rw [bne_iff_ne]
      intro hzero
      rcases Nat.mul_eq_zero.mp hzero with hdiv | hpow
      · exact hword ((mul_two_pow_lt_iff hhigh).mp hdiv)
      · exact absurd hpow (Nat.two_pow_pos _).ne'
    rw [if_neg hword]
    exact .bind (.guard _ (by rw [hmask]; rfl) _) _

end Delay

/-! ### The round trip -/

/-- The packet numbers in the set. -/
def AckBlocks.numbers (acks : AckBlocks) : Set Nat :=
  { n | ∃ block ∈ acks.intervals, block.startPacket ≤ n ∧ n ≤ block.endPacket }

theorem AckBlocks.isGreatest_largest {acks : AckBlocks} {largest : AckBlock}
    {blocks : List AckBlock} (h : acks.intervals.reverse = largest :: blocks) :
    IsGreatest acks.numbers largest.endPacket := by
  have hmem : largest ∈ acks.intervals := by
    rw [← List.mem_reverse, h]
    exact List.mem_cons_self
  have hapart : (largest :: blocks).Pairwise fun a b => b.endPacket + 2 ≤ a.startPacket := by
    rw [← h, List.pairwise_reverse]
    exact acks.apart
  constructor
  · exact ⟨largest, hmem, acks.interval largest hmem, Nat.le_refl _⟩
  · rintro n ⟨block, hblock, -, hn⟩
    rw [← List.mem_reverse, h] at hblock
    have hinterval := acks.interval largest hmem
    rcases List.mem_cons.mp hblock with rfl | hlower
    · exact hn
    · have hbelow := (List.pairwise_cons.mp hapart).1 block hlower
      omega

def CodecParameters.ackDelayExponentToUse (p : CodecParameters) : Nat :=
  if p.longHeader then kDefaultAckDelayExponent else p.peerAckDelayExponent

section Decode

variable {p : CodecParameters} {delay exponent : Nat} {largest : AckBlock} {added : List AckBlock}
  {e : Bytes}

/-- The decoder takes the numbers after the type. -/
theorem accepts_decodeAckFrame (hbelow : BlocksBelow largest.startPacket added)
    (hinterval : largest.startPacket ≤ largest.endPacket)
    (he : Format.Many Varint (ackFieldInts delay largest added) e)
    (hexponent : p.ackDelayExponentToUse = exponent) (hlow : 1 ≤ exponent) (hhigh : exponent < 64)
    (hfits : delay * 2 ^ exponent ≤ 2 ^ 63 - 1) :
    ∃ frame, Accepts (decodeAckFrame p) e frame ∧ frame.largestAcked = largest.endPacket ∧
      frame.ackBlocks = largest :: added ∧ frame.ackDelay =
        if delay * 2 ^ exponent > 1000 * 1000 * 1000 then 0 else delay * 2 ^ exponent := by
  obtain ⟨largestBytes, back₁, hlargest, hback₁, rfl⟩ := he.uncons
  obtain ⟨delayBytes, back₂, hdelay, hback₂, rfl⟩ := hback₁.uncons
  obtain ⟨countBytes, back₃, hcount, hback₃, rfl⟩ := hback₂.uncons
  obtain ⟨firstBytes, back, hfirst, hback, rfl⟩ := hback₃.uncons
  obtain ⟨decoded, hdecoded, hval⟩ := accepts_decodeAckBlocks hbelow hback
  have hstart : Accepts (nextAckedPacketLen largest.endPacket
      (largest.endPacket - largest.startPacket)) [] ⟨largest.startPacket, hinterval⟩ :=
    accepts_nextAckedPacketLen (by dsimp only; omega)
  have hconvert : Accepts (p.convertEncodedDurationToMicroseconds p.ackDelayExponentToUse delay) []
      (delay * 2 ^ exponent) := by
    rw [hexponent]
    exact accepts_convertEncodedDuration hlow hhigh hfits
  refine ⟨{
    largestAcked := largest.endPacket
    ackDelay := if delay * 2 ^ exponent > 1000 * 1000 * 1000 then 0 else delay * 2 ^ exponent
    implicit := false
    ackBlocks := largest :: decoded.val
    descending := .cons hinterval decoded.property.1 decoded.property.2 }, ?_, rfl,
    congrArg (largest :: ·) hval, rfl⟩
  have hbytes : largestBytes ++ (delayBytes ++ (countBytes ++ (firstBytes ++
      ([] ++ ([] ++ (back ++ [])))))) = largestBytes ++ (delayBytes ++ (countBytes ++
        (firstBytes ++ back))) := by
    rw [List.nil_append, List.nil_append, List.append_nil]
  rw [← hbytes]
  exact (accepts_integer hlargest _).bind ((accepts_integer hdelay _).bind
    ((accepts_integer hcount _).bind ((accepts_integer hfirst _).bind (hstart.bind
      (hconvert.bind (hdecoded.bind (.pure _)))))))

/-- A delay that is too large stops the decoder, whatever follows the delay. -/
theorem faults_decodeAckFrame (hinterval : largest.startPacket ≤ largest.endPacket)
    (he : Format.Many Varint (ackFieldInts delay largest added) e)
    (hexponent : p.ackDelayExponentToUse = exponent) (hlow : 1 ≤ exponent) (hhigh : exponent < 64)
    (hdelay : delay < 2 ^ 64) (hlarge : 2 ^ 63 - 1 < delay * 2 ^ exponent) :
    Faults (decodeAckFrame p) e (.exception
      (if delay * 2 ^ exponent < 2 ^ 64 then "Bad delay" else "Decoded delay overflows")) := by
  obtain ⟨largestBytes, back₁, hlargest, hback₁, rfl⟩ := he.uncons
  obtain ⟨delayBytes, back₂, hdelayBytes, hback₂, rfl⟩ := hback₁.uncons
  obtain ⟨countBytes, back₃, hcount, hback₃, rfl⟩ := hback₂.uncons
  obtain ⟨firstBytes, back, hfirst, hback, rfl⟩ := hback₃.uncons
  have hstart : Accepts (nextAckedPacketLen largest.endPacket
      (largest.endPacket - largest.startPacket)) [] ⟨largest.startPacket, hinterval⟩ :=
    accepts_nextAckedPacketLen (by dsimp only; omega)
  have hconvert := faults_convertEncodedDuration (p := p) hlow hhigh hdelay hlarge
  rw [← hexponent] at hconvert ⊢
  have hfaults : Faults (decodeAckFrame p) (largestBytes ++ (delayBytes ++ (countBytes ++
      (firstBytes ++ ([] ++ []))))) _ :=
    (accepts_integer hlargest _).bind_faults ((accepts_integer hdelayBytes _).bind_faults
      ((accepts_integer hcount _).bind_faults ((accepts_integer hfirst _).bind_faults
        (hstart.bind_faults (hconvert.bind _)))))
  intro t
  have hrun := hfaults (back ++ t)
  simp only [List.append_assoc, List.nil_append] at hrun ⊢
  exact hrun

end Decode

section RoundTrip

variable {m : WriteAckFrameMetaData}

theorem WriteAckFrameMetaData.encodedAckDelay_eq {d : Nat} (hd : m.ackDelay = d) (hlt : d < 2 ^ 64) :
    m.encodedAckDelay = d >>> m.ackDelayExponent := by
  have hunsigned : m.ackDelay % 2 ^ 64 = (d : Int) := by
    rw [hd]
    omega
  rw [encodedAckDelay, hunsigned, Int.toNat_natCast]

/-- What the peer reads: all the numbers up to the largest one, in the `k` highest intervals, and the
delay without the bits that the exponent drops. -/
def WriteAckFrameMetaData.ReadAs (m : WriteAckFrameMetaData) (k : Nat) (f : QuicFrame) : Prop :=
  ∃ frame, f = .ack frame none ∧ IsGreatest m.ackState.acks.numbers frame.largestAcked ∧
    frame.ackBlocks = m.ackState.acks.intervals.reverse.take k ∧
    frame.ackDelay = (m.ackDelay.toNat >>> m.ackDelayExponent) <<< m.ackDelayExponent

/-- Either nothing is written, because the frame with the highest interval alone does not fit, or the
frame is written with the greatest number of intervals that fits, and is read back. -/
theorem writeAckFrame_roundTrip (p : CodecParameters) (m : WriteAckFrameMetaData) (b : AckBuilder)
    (hne : m.ackState.acks.intervals ≠ [])
    (hnumbers : ∀ n ∈ m.ackState.acks.numbers, n < 2 ^ 62)
    (hdelay : 0 ≤ m.ackDelay ∧ m.ackDelay ≤ 1000 * 1000 * 1000)
    (hexponent : 1 ≤ m.ackDelayExponent ∧ m.ackDelayExponent ≤ 20)
    (hp : p.ackDelayExponentToUse = m.ackDelayExponent) :
    ¬ m.AckFits .ack 1 b.remainingBytes.toNat ∧ writeAckFrame m b .ack = .ok (none, b) ∨
    ∃ k result b' bytes, 1 ≤ k ∧ k ≤ m.ackState.acks.intervals.length ∧
      writeAckFrame m b .ack = .ok (some result, b') ∧ result.bytesWritten = bytes.length ∧
      bytes.length ≤ b.remainingBytes.toNat ∧
      ReadsBack p b.toPacketBuilder b'.toPacketBuilder bytes (m.ReadAs k) ∧
      m.AckFits .ack k b.remainingBytes.toNat ∧
      ∀ j, k < j → j ≤ m.ackState.acks.intervals.length →
        ¬ m.AckFits .ack j b.remainingBytes.toNat := by
  obtain ⟨d, hd⟩ := Int.eq_ofNat_of_zero_le hdelay.1
  have hdle : d ≤ 1000 * 1000 * 1000 := by
    have hle := hdelay.2
    omega
  have hencoded := WriteAckFrameMetaData.encodedAckDelay_eq hd (by omega)
  have hshifted : d >>> m.ackDelayExponent ≤ d := Nat.shiftRight_le _ _
  have hadjusted : d >>> m.ackDelayExponent * 2 ^ m.ackDelayExponent ≤ d := by
    rw [Nat.shiftRight_eq_div_pow]
    exact Nat.div_mul_le_self _ _
  obtain ⟨largest, blocks, hacks⟩ := List.exists_cons_of_ne_nil
    (fun hnil => hne (List.reverse_eq_nil_iff.mp hnil))
  have hlength : m.ackState.acks.intervals.length = blocks.length + 1 := by
    rw [← List.length_reverse, hacks, List.length_cons]
  have hgreatest := AckBlocks.isGreatest_largest hacks
  have hlargest := hnumbers _ hgreatest.1
  have hinterval : largest.startPacket ≤ largest.endPacket := by
    apply m.ackState.acks.interval
    rw [← List.mem_reverse, hacks]
    exact List.mem_cons_self
  have hnot : ∀ j, b.remainingBytes.toNat < intsSize (m.ints .ack j) + 0 →
      ¬ m.AckFits .ack j b.remainingBytes.toNat := by
    rintro j hlt ⟨bytes, hbytes, hle⟩
    rw [hbytes.length_ints] at hle
    omega
  unfold writeAckFrame
  rcases writeAckFrameToPacketBuilder_spec (b := b.toPacketBuilder) hacks hlargest (by omega)
      (show m.minAdditionalAckReceiveTimestampsFieldsSize .ack = .ok 0 from rfl) with
      ⟨hspace, hnone⟩ | ⟨added, frame, bytes, b', hadded, hwrite, hframe, hbytes,
        hwritten, hle, hmore⟩
  · refine .inl ⟨hnot 1 hspace, ?_⟩
    rw [hnone]
    rfl
  · have hspace := hwritten.toNat (show bytes.length ≤ _ from hle)
    refine .inr ⟨added + 1, ⟨bytes.length, frame.moved, 0, 0, 0⟩,
      { b with toPacketBuilder := b' }.appendFrame frame, bytes, by omega, by omega, ?_, rfl, hle,
      ⟨hwritten.body, hspace, ?_⟩, ⟨bytes, hbytes, hle⟩, fun j hj hjle =>
        hnot j (hmore j hj (by omega))⟩
    · rw [hwrite, except_ok_bind]
      dsimp only
      rw [show b.remainingBytes.toNat - b'.remainingBytes.toNat = bytes.length by omega, hframe]
      rfl
    · intro queue rest hqueue
      rw [WriteAckFrameMetaData.ints, hacks, List.take_succ_cons] at hbytes
      obtain ⟨typeBytes, body, htype, hbody, rfl⟩ := hbytes.int_inv
      rw [List.append_assoc] at hqueue
      obtain ⟨decoded, hdecoded, hmax, hblocks, hdelayed⟩ := accepts_decodeAckFrame
        ((AckBlocks.below hacks).take added) hinterval hbody.many hp hexponent.1 (by omega)
        (by rw [hencoded]; omega)
      obtain ⟨queue', hparse, hrest⟩ := parseFrame_of_accepts (encodeQuicInteger_varint htype)
        (show FrameType.ofCode 0x02 = some .ack from rfl) (fun _ => rfl) rfl
        (hdecoded.map (QuicFrame.ack · none)) hqueue
      refine ⟨.ack decoded none, queue', hparse, ⟨decoded, rfl, ?_, ?_, ?_⟩, hrest⟩
      · rw [hmax]
        exact hgreatest
      · rw [hblocks, hacks, List.take_succ_cons]
      · rw [hdelayed, hencoded, if_neg (by omega), hd, Nat.shiftLeft_eq]
        rfl

end RoundTrip

/-- Two intervals, and space for the highest one. -/
theorem writeAckFrame_roundTrip_tight :
    let m : WriteAckFrameMetaData := {
      ackState := {
        acks := ⟨[⟨1, 3⟩, ⟨7, 9⟩], by decide, by decide⟩
        lastRecvdPacketInfo := none
        recvdPacketInfos := [] }
      ackDelay := 1000
      ackDelayExponent := 3
      connTime := 0 }
    let b : AckBuilder := ⟨⟨7, [], [], true⟩, []⟩
    ∃ k result b' bytes, 1 ≤ k ∧ k ≤ 2 ∧ writeAckFrame m b .ack = .ok (some result, b') ∧
      result.bytesWritten = bytes.length ∧ bytes.length ≤ 7 ∧
      ReadsBack ⟨false, 3, none, fun _ _ => 0⟩ b.toPacketBuilder b'.toPacketBuilder bytes
        (m.ReadAs k) ∧
      m.AckFits .ack k 7 ∧ ∀ j, k < j → j ≤ 2 → ¬ m.AckFits .ack j 7 := by
  intro m b
  have hnumbers : ∀ n ∈ m.ackState.acks.numbers, n < 2 ^ 62 := by
    rintro n ⟨block, hblock, -, hn⟩
    have hblocks : ∀ block ∈ m.ackState.acks.intervals, block.endPacket < 2 ^ 62 := by decide
    exact Nat.lt_of_le_of_lt hn (hblocks block hblock)
  have hsome : (writeAckFrame m b .ack).toOption.map (·.1.isSome) = some true := by
    decide +kernel
  rcases writeAckFrame_roundTrip ⟨false, 3, none, fun _ _ => 0⟩ m b (by decide) hnumbers (by decide)
    (by decide) rfl with ⟨-, hnone⟩ | hwritten
  · rw [hnone] at hsome
    cases hsome
  · exact hwritten

end MasqueQuic
