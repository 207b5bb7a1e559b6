/-
The buffer of the builder that writes in place.

From the header on, the buffer is `before ++ header ++ room ++ body`: what it held already, the header
that has been written, the room for the length and the packet number, and the body so far. Writes and
padding only make the body longer, and `buildPacket` fills the room.
-/

import MasqueQuic.Lib.Run
import MasqueQuic.Quic.PacketBuilders

namespace MasqueQuic

/-! ### The fixed-width length -/

theorem encodePacketLength_eq {pktLen : Nat} (h : pktLen ≤ kTwoByteLimit) :
    InplaceQuicPacketBuilder.encodePacketLength pktLen = .ok (beBytes 2 (pktLen ||| 0x4000)) :=
  if_pos h

theorem encodePacketLength_varint {pktLen : Nat} {lenBytes : Bytes}
    (h : InplaceQuicPacketBuilder.encodePacketLength pktLen = .ok lenBytes) :
    pktLen ≤ kTwoByteLimit ∧ Varint pktLen lenBytes ∧ lenBytes.length = kMaxPacketLenSize := by
  unfold InplaceQuicPacketBuilder.encodePacketLength at h
  split at h
  · rename_i hle
    cases h
    have hlt : pktLen < 2 ^ 14 := by
      unfold kTwoByteLimit at hle
      omega
    have hor : pktLen ||| 0x4000 = 0x4000 + pktLen := by
      rw [Nat.or_comm]
      exact (Nat.two_pow_add_eq_or_of_lt hlt 1).symm
    have hvalue : pktLen ||| 0x4000 < 256 ^ 2 := by
      rw [hor]
      omega
    refine ⟨hle, ⟨1, by decide, length_beBytes _ _, hlt, ?_⟩, length_beBytes _ _⟩
    rw [beNat_beBytes_of_lt hvalue, hor]
    omega
  · cases h

namespace BufWriter

variable {w w' : BufWriter} {data : Bytes}

theorem push_ok (h : w.push data = .ok w') :
    w.written + data.length ≤ w.most ∧
      w' = { w with iobuf := w.iobuf ++ data, written := w.written + data.length } := by
  unfold push at h
  split at h
  · cases h
    exact ⟨‹_›, rfl⟩
  · cases h

/-- Bytes of the room are filled in where they stand. -/
theorem backFill_room {front hole back : Bytes} {destOffset : Nat}
    (hbuf : w.iobuf = front ++ (hole ++ back)) (hoffset : destOffset = front.length)
    (hlen : data.length = hole.length) (hcount : data.length ≤ w.appendCount) :
    w.backFill data destOffset = .ok { w with
      appendCount := w.appendCount - data.length
      iobuf := front ++ (data ++ back) } := by
  have hsize : w.iobuf.length = front.length + (hole.length + back.length) := by
    rw [hbuf, List.length_append, List.length_append]
  unfold backFill
  rw [if_neg (by omega)]
  have htake : w.iobuf.take destOffset = front := by
    rw [hbuf, hoffset, List.take_left]
  have hdrop : w.iobuf.drop (destOffset + data.length) = back := by
    rw [hbuf, hoffset, hlen, ← List.drop_drop, List.drop_left, List.drop_left]
  rw [htake, hdrop, List.append_assoc]

end BufWriter

/-- The bytes that a call of the write codec adds to the body. -/
def BuilderWrite.data : BuilderWrite → Bytes
  | .bytes data => data
  | .insert buf limit => buf.bytes.take limit
  | .appendFrame => []

/-- What the buffer was when the header was written, and what does not change from then on. -/
structure PacketPlan where
  before : Bytes
  header : Bytes
  room : Bytes
  packetHeader : PacketHeader
  encoding : PacketNumEncodingResult
  overhead : UInt8

/-- The builder follows the plan, with this body so far. -/
structure PacketPlan.Holds (p : PacketPlan) (body : Bytes) (b : InplaceQuicPacketBuilder) : Prop where
  iobuf : b.bufWriter.iobuf = p.before ++ (p.header ++ (p.room ++ body))
  appendCount : b.bufWriter.appendCount = p.room.length
  headerStart : b.headerStart = p.before.length
  bodyStart : b.bodyStart = some (p.before.length + p.header.length + p.room.length)
  lenOffset : p.room ≠ [] → b.packetLenOffset = p.before.length + p.header.length
  numOffset : p.room ≠ [] → b.packetNumOffset = p.before.length + p.header.length + kMaxPacketLenSize
  packetHeader : b.packetHeader = p.packetHeader
  encoding : b.packetNumberEncoding = some p.encoding
  overhead : b.cipherOverhead = p.overhead

namespace PacketPlan.Holds

variable {p : PacketPlan} {body data : Bytes} {b b' : InplaceQuicPacketBuilder}

theorem push {counted : Nat} (hb : p.Holds body b) (h : b.push data counted = .ok b') :
    p.Holds (body ++ data) b' := by
  simp only [InplaceQuicPacketBuilder.push, except_bind_eq_ok] at h
  obtain ⟨writer, hwriter, hreturn⟩ := h
  obtain ⟨-, rfl⟩ := BufWriter.push_ok hwriter
  cases hreturn
  refine ⟨?_, hb.appendCount, hb.headerStart, hb.bodyStart, hb.lenOffset, hb.numOffset,
    hb.packetHeader, hb.encoding, hb.overhead⟩
  dsimp only
  rw [hb.iobuf]
  simp only [List.append_assoc]

theorem write {w : BuilderWrite} (hb : p.Holds body b) (h : b.write w = .ok b') :
    p.Holds (body ++ w.data) b' := by
  cases w with
  | bytes data => exact hb.push h
  | insert buf limit =>
    unfold InplaceQuicPacketBuilder.write at h
    dsimp only at h
    split at h
    · cases h
    split at h
    · cases h
    exact hb.push h
  | appendFrame =>
    cases h
    rw [BuilderWrite.data, List.append_nil]
    exact ⟨hb.iobuf, hb.appendCount, hb.headerStart, hb.bodyStart, hb.lenOffset, hb.numOffset,
      hb.packetHeader, hb.encoding, hb.overhead⟩

theorem writes {ws : List BuilderWrite} (hb : p.Holds body b)
    (h : ws.foldlM InplaceQuicPacketBuilder.write b = .ok b') :
    p.Holds (body ++ ws.flatMap BuilderWrite.data) b' := by
  induction ws generalizing b body with
  | nil =>
    cases h
    rw [List.flatMap_nil, List.append_nil]
    exact hb
  | cons w ws ih =>
    rw [List.foldlM_cons, except_bind_eq_ok] at h
    obtain ⟨b₁, hstep, hrest⟩ := h
    have hnext := ih (hb.write hstep) hrest
    rwa [List.append_assoc, ← List.flatMap_cons] at hnext

/-- Padding is zeros behind the body. -/
theorem padBody {n : Nat} (hb : p.Holds body b) (h : b.padBody n = .ok b') :
    ∃ k ≤ n, p.Holds (body ++ List.replicate k 0) b' := by
  induction n generalizing b body with
  | zero =>
    cases h
    exact ⟨0, Nat.le_refl 0, by rwa [List.replicate_zero, List.append_nil]⟩
  | succ n ih =>
    unfold InplaceQuicPacketBuilder.padBody at h
    split at h
    · rw [except_bind_eq_ok] at h
      obtain ⟨b₁, hpush, hrest⟩ := h
      obtain ⟨k, hk, hnext⟩ := ih (hb.push hpush) hrest
      refine ⟨k + 1, Nat.succ_le_succ hk, ?_⟩
      rwa [List.append_assoc, List.singleton_append, ← List.replicate_succ] at hnext
    · cases h
      exact ⟨0, Nat.zero_le _, by rwa [List.replicate_zero, List.append_nil]⟩

theorem bodyLength (hb : p.Holds body b) :
    b.bufWriter.iobuf.length - (p.before.length + p.header.length + p.room.length) = body.length := by
  rw [hb.iobuf, List.length_append, List.length_append, List.length_append]
  omega

/-- The packet, cut out of the buffer. -/
theorem cut {iobuf filled : Bytes} (hb : p.Holds body b)
    (hbuf : iobuf = p.before ++ (filled ++ body))
    (hlen : filled.length = p.header.length + p.room.length) :
    (iobuf.take (p.before.length + p.header.length + p.room.length)).drop b.headerStart = filled ∧
      iobuf.drop (p.before.length + p.header.length + p.room.length) = body := by
  have hstart : p.before.length + p.header.length + p.room.length =
      p.before.length + filled.length := by omega
  have htake : iobuf.take (p.before.length + filled.length) = p.before ++ filled := by
    rw [hbuf, List.take_length_add_append, List.take_left]
  constructor
  · rw [hstart, htake, hb.headerStart, List.drop_left]
  · rw [hstart, hbuf, ← List.drop_drop, List.drop_left, List.drop_left]

end PacketPlan.Holds

namespace InplaceQuicPacketBuilder

variable {before : Bytes} {limit : UInt32} {largestAckedPacketNum : UInt64} {overhead : UInt8}
  {b b' : InplaceQuicPacketBuilder}

/-- What the builder plans for a long header. -/
def longPlan (before bytes : Bytes) (header : LongHeader) (encoding : PacketNumEncodingResult)
    (overhead : UInt8) : PacketPlan :=
  ⟨before, bytes, if header.longHeaderType = .retry then [] else placeholder encoding, .long header,
    encoding, overhead⟩

/-- What the builder plans for a short header. -/
def shortPlan (before bytes : Bytes) (header : ShortHeader) (encoding : PacketNumEncodingResult)
    (overhead : UInt8) : PacketPlan :=
  ⟨before, bytes ++ beBytes encoding.length encoding.result, [], .short header, encoding, overhead⟩

theorem start_long {header : LongHeader}
    (h : start before limit (.long header) largestAckedPacketNum overhead = .ok b) :
    ∃ encoding bytes space,
      encodeLongHeaderHelper header (limit - UInt32.ofNat overhead.toNat) largestAckedPacketNum =
        .ok (encoding, bytes, space) ∧
      (longPlan before bytes header encoding overhead).Holds [] b ∧
      b.remainingBytes = space ∧ b.isEmpty = true ∧ b.bufWriter.most = limit.toNat ∧
      b.bufWriter.written =
        bytes.length + (longPlan before bytes header encoding overhead).room.length := by
  unfold start encodePacketHeader at h
  rw [if_neg (by simp [accountForCipherOverhead, new])] at h
  simp only [accountForCipherOverhead, new, except_bind_eq_ok] at h
  obtain ⟨⟨encoding, bytes, space⟩, hencode, writer, hwriter, hreturn⟩ := h
  obtain ⟨-, rfl⟩ := BufWriter.push_ok hwriter
  cases hreturn
  refine ⟨encoding, bytes, space, hencode, ⟨?_, ?_, rfl, ?_, ?_, ?_, rfl, rfl, rfl⟩, rfl, rfl, ?_, ?_⟩
  all_goals
    dsimp only [longPlan]
    split
  · rw [List.append_nil, List.append_nil]
  · rw [BufWriter.append, List.append_nil, List.append_assoc]
  · rfl
  · exact Nat.zero_add _
  · rw [List.length_append, List.length_nil, Nat.add_zero]
  · rw [BufWriter.append, List.length_append, List.length_append]
  · exact fun hroom => absurd rfl hroom
  · exact fun _ => List.length_append
  · exact fun hroom => absurd rfl hroom
  · intro _
    rw [List.length_append]
  · rfl
  · rfl
  · rw [Nat.zero_add, List.length_nil, Nat.add_zero]
  · rw [BufWriter.append, Nat.zero_add]

theorem start_short {header : ShortHeader} {encoding : PacketNumEncodingResult}
    (h : start before limit (.short header) largestAckedPacketNum overhead = .ok b)
    (hencoding : b.packetNumberEncoding = some encoding) :
    ∃ bytes space,
      encodeShortHeaderHelper header (limit - UInt32.ofNat overhead.toNat) largestAckedPacketNum =
        .ok (some encoding, bytes, space) ∧
      (shortPlan before bytes header encoding overhead).Holds [] b ∧
      b.remainingBytes = space - UInt32.ofNat encoding.length ∧ b.isEmpty = true ∧
      b.bufWriter.most = limit.toNat ∧ b.bufWriter.written = bytes.length + encoding.length := by
  unfold start encodePacketHeader at h
  rw [if_neg (by simp [accountForCipherOverhead, new])] at h
  simp only [accountForCipherOverhead, new, except_bind_eq_ok] at h
  obtain ⟨⟨found, bytes, space⟩, hencode, writer, hwriter, hreturn⟩ := h
  obtain ⟨-, rfl⟩ := BufWriter.push_ok hwriter
  cases found with
  | none =>
    cases hreturn
    cases hencoding
  | some found =>
    dsimp only at hreturn
    rw [except_bind_eq_ok] at hreturn
    obtain ⟨writer, hwriter, hreturn⟩ := hreturn
    obtain ⟨-, rfl⟩ := BufWriter.push_ok hwriter
    cases hreturn
    cases hencoding
    have hlen := length_beBytes encoding.length encoding.result
    refine ⟨bytes, space, hencode, ⟨?_, rfl, rfl, ?_, fun hroom => absurd rfl hroom,
      fun hroom => absurd rfl hroom, rfl, rfl, rfl⟩, rfl, rfl, rfl, ?_⟩
    · simp only [shortPlan, List.append_nil, List.append_assoc]
    · simp only [shortPlan, List.length_append, List.length_nil, Nat.add_zero, Nat.add_assoc]
    · dsimp only
      rw [hlen, Nat.zero_add]

theorem encoding_write {w : BuilderWrite} (h : b.write w = .ok b') :
    b'.packetNumberEncoding = b.packetNumberEncoding := by
  have hpush : ∀ data counted, b.push data counted = .ok b' →
      b'.packetNumberEncoding = b.packetNumberEncoding := by
    intro data counted hpush
    simp only [push, except_bind_eq_ok] at hpush
    obtain ⟨writer, -, hreturn⟩ := hpush
    cases hreturn
    rfl
  cases w with
  | bytes data => exact hpush _ _ h
  | insert buf limit =>
    unfold InplaceQuicPacketBuilder.write at h
    dsimp only at h
    split at h
    · cases h
    split at h
    · cases h
    exact hpush _ _ h
  | appendFrame =>
    cases h
    rfl

/-- Nothing is built without a packet number. -/
theorem encoding_of_buildPacket {packet : BuiltPacket} {ws : List BuilderWrite}
    (hwrites : ws.foldlM write b = .ok b') (h : b'.buildPacket = .ok packet) :
    ∃ encoding, b.packetNumberEncoding = some encoding := by
  have hsame : b'.packetNumberEncoding = b.packetNumberEncoding :=
    @run_invariant _ _ _ write (fun s => s.packetNumberEncoding = b.packetNumberEncoding)
      (fun _ _ _ hs hstep => (encoding_write hstep).trans hs) _ _ _ rfl hwrites
  unfold buildPacket at h
  rw [hsame] at h
  cases hencoding : b.packetNumberEncoding with
  | none =>
    rw [hencoding] at h
    cases h
  | some encoding => exact ⟨encoding, rfl⟩

/-- A packet that is built has been padded. -/
theorem padBody_of_buildPacket {p : PacketPlan} {body : Bytes} {packet : BuiltPacket}
    (hb : p.Holds body b) (h : b.buildPacket = .ok packet) :
    ∃ b' k, b.padBody (minBodySize p.encoding - (body.length + p.overhead.toNat)) = .ok b' ∧
      p.Holds (body ++ List.replicate k 0) b' := by
  unfold buildPacket at h
  rw [hb.encoding, hb.bodyStart] at h
  dsimp only at h
  rw [hb.bodyLength, hb.overhead, except_bind_eq_ok] at h
  obtain ⟨b', hpad, -⟩ := h
  obtain ⟨k, -, hb'⟩ := hb.padBody hpad
  exact ⟨b', k, hpad, hb'⟩

section Build

variable {bytes body body' : Bytes} {encoding : PacketNumEncodingResult}

/-- The room of a long header is filled with the length, in two bytes, and the packet number. -/
theorem buildPacket_long {header : LongHeader}
    (hb : (longPlan before bytes header encoding overhead).Holds body b)
    (hretry : header.longHeaderType ≠ .retry)
    (hpad : b.padBody (minBodySize encoding - (body.length + overhead.toNat)) = .ok b')
    (hb' : (longPlan before bytes header encoding overhead).Holds body' b') :
    b.buildPacket = (do
      let lenBytes ← encodePacketLength (encoding.length + body'.length + overhead.toNat)
      return ⟨bytes ++ (lenBytes ++ beBytes encoding.length encoding.result), body', b'.isEmpty⟩) := by
  have hroom : (longPlan before bytes header encoding overhead).room = placeholder encoding :=
    if_neg hretry
  have hsplit : placeholder encoding =
      List.replicate kMaxPacketLenSize 0 ++ List.replicate encoding.length 0 := by
    rw [placeholder, List.replicate_append_replicate, Nat.add_comm]
  have hne : (longPlan before bytes header encoding overhead).room ≠ [] := by
    rw [hroom, hsplit]
    exact List.cons_ne_nil _ _
  have hlong : b'.packetHeader = .long header := hb'.packetHeader
  unfold buildPacket
  rw [hb.encoding, hb.bodyStart]
  dsimp only
  rw [hb.bodyLength, hb.overhead]
  dsimp only [longPlan] at hpad ⊢
  rw [hpad, except_ok_bind, hlong]
  dsimp only
  rw [if_pos (decide_eq_true hretry), show b'.cipherOverhead = overhead from hb'.overhead]
  have hbody := hb'.bodyLength
  rw [hroom] at hbody
  dsimp only [longPlan] at hbody
  rw [if_neg hretry, hbody]
  cases hlen : encodePacketLength (encoding.length + body'.length + overhead.toNat) with
  | error e => rfl
  | ok lenBytes =>
    obtain ⟨-, -, hwidth⟩ := encodePacketLength_varint hlen
    have hbuf := hb'.iobuf
    have hcount := hb'.appendCount
    rw [hroom] at hbuf hcount
    rw [hsplit] at hbuf
    rw [placeholder, List.length_replicate] at hcount
    dsimp only [longPlan] at hbuf
    -- first the length, then the packet number
    have hfirst := @BufWriter.backFill_room b'.bufWriter lenBytes (before ++ bytes)
      (List.replicate kMaxPacketLenSize 0) (List.replicate encoding.length 0 ++ body')
      b'.packetLenOffset (by rw [hbuf]; simp only [List.append_assoc])
      (by rw [hb'.lenOffset hne, List.length_append]; rfl)
      (by rw [hwidth, List.length_replicate]) (by omega)
    have hsecond := @BufWriter.backFill_room
      { b'.bufWriter with
        appendCount := b'.bufWriter.appendCount - lenBytes.length
        iobuf := before ++ bytes ++ (lenBytes ++ (List.replicate encoding.length 0 ++ body')) }
      (beBytes encoding.length encoding.result) (before ++ bytes ++ lenBytes)
      (List.replicate encoding.length 0) body' b'.packetNumOffset (by simp only [List.append_assoc])
      (by rw [hb'.numOffset hne, List.length_append, List.length_append, hwidth]; rfl)
      (by rw [length_beBytes, List.length_replicate])
      (by dsimp only; rw [length_beBytes]; omega)
    obtain ⟨hheader, hcut⟩ := @PacketPlan.Holds.cut _ body' b'
      (before ++ bytes ++ lenBytes ++ (beBytes encoding.length encoding.result ++ body'))
      (bytes ++ (lenBytes ++ beBytes encoding.length encoding.result)) hb' (by simp only [longPlan, List.append_assoc]) (by
        rw [hroom, placeholder, List.length_append, List.length_append, length_beBytes,
          List.length_replicate, hwidth]
        dsimp only [longPlan]
        omega)
    rw [hroom] at hheader hcut
    dsimp only [longPlan] at hheader hcut
    rw [except_ok_bind, hfirst, except_ok_bind, hsecond, except_ok_bind, except_ok_bind, hheader,
      hcut]

/-- Without room, the header is complete from the start. -/
theorem buildPacket_noRoom {p : PacketPlan} (hb : p.Holds body b) (hroom : p.room = [])
    (hheader : ∀ header, p.packetHeader = .long header → header.longHeaderType = .retry)
    (hpad : b.padBody (minBodySize p.encoding - (body.length + p.overhead.toNat)) = .ok b')
    (hb' : p.Holds body' b') : b.buildPacket = .ok ⟨p.header, body', b'.isEmpty⟩ := by
  obtain ⟨hcutHeader, hcutBody⟩ := @PacketPlan.Holds.cut p body' b' b'.bufWriter.iobuf p.header hb'
    (by rw [hb'.iobuf, hroom, List.nil_append]) (by rw [hroom]; rfl)
  unfold buildPacket
  rw [hb.encoding, hb.bodyStart]
  dsimp only
  rw [hb.bodyLength, hb.overhead, hpad, except_ok_bind, hb'.packetHeader]
  cases hform : p.packetHeader with
  | long header =>
    dsimp only
    rw [if_neg (by simp [hheader header hform]), pure_bind, hcutHeader, hcutBody]
    rfl
  | short header =>
    dsimp only
    rw [if_neg Bool.false_ne_true, pure_bind, hcutHeader, hcutBody]
    rfl

end Build

end InplaceQuicPacketBuilder

end MasqueQuic
