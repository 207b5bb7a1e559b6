/-
Coalesced packets.

On every datagram that is not empty, `parsePacket` takes something off the queue, and none of its reads
leaves the datagram (`parsePacket_progress`). A packet with a length that follows the format is cut off
exactly, whatever follows it and whatever the ciphers make of it, so that the packets of a datagram are
seen one by one (`parsePackets_coalesced`). Only packets without a length take the rest with them.
-/

import MasqueQuic.Quic.HeaderCodec
import MasqueQuic.Quic.PacketParsing

namespace MasqueQuic

/-! ### One buffer -/

/-- The chain has one element at most, as that of a datagram that was received. -/
def Buf.Unchained (buf : Buf) : Prop := buf.elems.length ≤ 1

def BufQueue.Unchained (q : BufQueue) : Prop := q.chain_.Unchained

theorem Buf.Unchained.front_eq {buf : Buf} (h : buf.Unchained) : buf.front = buf.bytes := by
  cases buf with
  | none => rfl
  | some head =>
    have hnext : head.next = [] := List.eq_nil_of_length_eq_zero (Nat.le_zero.mp
      (Nat.le_of_succ_le_succ h))
    rw [Buf.front, Buf.bytes_some, IOBuf.bytes_eq, hnext, List.flatMap_nil, List.append_nil]

theorem splitElems_unchained {es : List IOBufElem} (h : es.length ≤ 1) (len : Nat) :
    (BufQueue.splitElems es len).1.length ≤ 1 ∧ (BufQueue.splitElems es len).2.length ≤ 1 := by
  cases es with
  | nil => exact ⟨Nat.zero_le _, Nat.zero_le _⟩
  | cons elem rest =>
    obtain rfl : rest = [] :=
      List.eq_nil_of_length_eq_zero (Nat.le_zero.mp (Nat.le_of_succ_le_succ h))
    unfold BufQueue.splitElems
    split
    · exact ⟨Nat.zero_le _, Nat.le_refl _⟩
    · split
      · exact ⟨Nat.le_refl _, Nat.le_refl _⟩
      · exact ⟨Nat.le_refl _, Nat.zero_le _⟩

theorem BufQueue.unchained_cleared : BufQueue.cleared.Unchained := Nat.zero_le _

theorem BufQueue.Unchained.splitAtMost {q : BufQueue} (h : q.Unchained) (len : Nat) :
    (q.splitAtMost len).1.Unchained ∧ (q.splitAtMost len).2.Unchained := by
  unfold BufQueue.splitAtMost
  split
  · exact ⟨Nat.le_refl 1, h⟩
  · split
    · exact ⟨h, unchained_cleared⟩
    · obtain ⟨hfront, hback⟩ := splitElems_unchained h len
      unfold BufQueue.Unchained Buf.Unchained
      rw [Buf.elems_ofElems, Buf.elems_ofElems]
      exact ⟨hfront, hback⟩

/-! ### Readers of headers -/

/-- How a header fails to be parsed does not matter here. -/
abbrev Forward {α : Type} (r : HeaderReader α) : Prop := Steady (fun _ => True) r

namespace HeaderReader

theorem forward_canAdvance (n : Nat) : Forward (canAdvance n) := by
  intro s
  exact Ends.ite (fun _ => Ends.ok (List.suffix_refl s)) fun _ => Ends.error trivial

theorem forward_pull (n : Nat) : Forward (pull n) := Steady.take trivial

theorem forward_fail {α : Type} (e : TransportErrorCode) :
    Forward (fun _ => .error e : HeaderReader α) := fun _ => trivial

theorem forward_readBE (n : Nat) : Forward (readBE n) := (forward_pull n).bind fun _ => .pure _

theorem forward_readConnectionId (n : Nat) : Forward (readConnectionId n) := by
  unfold readConnectionId
  split
  · exact forward_fail _
  · exact (forward_canAdvance n).bind fun _ => (forward_pull n).bind fun _ => .pure _

theorem forward_integer : Forward integer := by
  intro s
  change Ends _ (integer s) _
  unfold integer
  split
  · trivial
  · exact List.drop_suffix _ s

end HeaderReader

open HeaderReader

theorem forward_parseLongHeaderInvariant (initialByte : UInt8) :
    Forward (parseLongHeaderInvariant initialByte) :=
  (forward_canAdvance _).bind fun _ => (forward_readBE _).bind fun _ =>
    (forward_canAdvance _).bind fun _ => (forward_readBE _).bind fun _ =>
      (forward_readConnectionId _).bind fun _ => (forward_canAdvance _).bind fun _ =>
        (forward_readBE _).bind fun _ => (forward_readConnectionId _).bind fun _ => .pure _

theorem forward_parseInitialToken : Forward parseInitialToken :=
  forward_integer.bind fun _ => (forward_canAdvance _).bind fun _ =>
    (forward_pull _).bind fun _ => .pure _

theorem canAdvance_ends (n : Nat) (s : Bytes) :
    Ends (fun _ => True) ((canAdvance n).run s) (fun result => result.2 = s ∧ n ≤ s.length) :=
  Ends.ite (fun hn => Ends.ok ⟨rfl, hn⟩) fun _ => Ends.error trivial

/-- The packet is there, as long as its length says. -/
theorem parsePacketLength_ends (initialByte : UInt8) (s : Bytes) :
    Ends (fun _ => True) ((parsePacketLength initialByte).run s)
      (fun result => result.2 <:+ s ∧ result.1.packetLength ≤ result.2.length) := by
  unfold parsePacketLength
  rw [StateT.run_bind]
  apply (forward_integer s).bind
  rintro ⟨pktLen, t⟩ hsuffix
  rw [StateT.run_bind]
  apply (canAdvance_ends pktLen.1 t).bind
  rintro ⟨_, u⟩ ⟨hu, hlen⟩
  cases hu
  rw [StateT.run_bind]
  apply (canAdvance_ends (parsePacketNumberLength initialByte) _).bind
  rintro ⟨_, v⟩ ⟨hv, _⟩
  cases hv
  dsimp only
  split
  · trivial
  · exact ⟨hsuffix, hlen⟩

/-- A packet with a length is there; of a Retry packet, the tag is left. -/
def HeaderLeaves (result : ParsedLongHeader × Bytes) : Prop :=
  if result.1.header.longHeaderType = .retry then result.2.length = kRetryIntegrityTagLen
  else result.1.packetLength.packetLength ≤ result.2.length

theorem parseLongHeaderVariants_ends (type : LongHeaderType) (parsed : ParsedLongHeaderInvariant)
    (nodeType : QuicNodeType) (s : Bytes) :
    Ends (fun _ => True) ((parseLongHeaderVariants type parsed nodeType).run s)
      (fun result => result.2 <:+ s ∧ HeaderLeaves result) := by
  by_cases hretry : type = .retry
  · subst hretry
    unfold parseLongHeaderVariants
    dsimp only
    rw [StateT.run_bind, show totalLength.run s = .ok (s.length, s) from rfl, except_ok_bind]
    dsimp only
    split
    · trivial
    · rename_i hlong
      have htake : s.length - kRetryIntegrityTagLen ≤ s.length := Nat.sub_le _ _
      have hpull : (pull (s.length - kRetryIntegrityTagLen)).run s =
          .ok (⟨s.take (s.length - kRetryIntegrityTagLen),
            by rw [List.length_take, Nat.min_eq_left htake]⟩,
            s.drop (s.length - kRetryIntegrityTagLen)) := dif_pos htake
      rw [StateT.run_bind, hpull, except_ok_bind]
      refine ⟨List.drop_suffix _ s, ?_⟩
      unfold HeaderLeaves
      rw [if_pos rfl, List.length_drop]
      omega
  · have hlength : ∀ token t, t <:+ s → Ends (fun _ => True)
        ((do
          let packetLength ← parsePacketLength parsed.initialByte
          return (⟨⟨0, type, parsed.invariant, token⟩, packetLength⟩ : ParsedLongHeader)).run t)
        (fun result => result.2 <:+ s ∧ HeaderLeaves result) := by
      intro token t hsuffix
      rw [StateT.run_bind]
      apply (parsePacketLength_ends parsed.initialByte t).bind
      rintro ⟨packetLength, t'⟩ ⟨hsuffix', hlen⟩
      refine ⟨hsuffix'.trans hsuffix, ?_⟩
      unfold HeaderLeaves
      rw [if_neg hretry]
      exact hlen
    have hvariants : parseLongHeaderVariants type parsed nodeType =
        if type = .initial ∧ nodeType = .server ∧
            parsed.invariant.dstConnId.size < kMinInitialDestinationConnIdLength then
          fun _ => .error .frameEncodingError
        else (do
          let token ← (if type = .initial then parseInitialToken else pure [])
          let packetLength ← parsePacketLength parsed.initialByte
          return ⟨⟨0, type, parsed.invariant, token⟩, packetLength⟩ : HeaderReader _) := by
      cases type with
      | retry => exact absurd rfl hretry
      | initial => rfl
      | zeroRtt => rfl
      | handshake => rfl
    rw [hvariants]
    split
    · trivial
    · have htoken : Forward (if type = .initial then parseInitialToken else pure []) := by
        split
        · exact forward_parseInitialToken
        · exact .pure _
      rw [StateT.run_bind]
      apply (htoken s).bind
      rintro ⟨token, t⟩ hsuffix
      exact hlength token t hsuffix

theorem tryParseLongHeader_ends (nodeType : QuicNodeType) (s : Bytes) :
    Ends (fun _ => True) ((tryParseLongHeader nodeType).run s)
      (fun result => result.2.length < s.length ∧ HeaderLeaves result) := by
  cases s with
  | nil => trivial
  | cons initialByte cursor =>
    change Ends _ (tryParseLongHeader nodeType (initialByte :: cursor)) _
    unfold tryParseLongHeader
    dsimp only
    have hinvariant := forward_parseLongHeaderInvariant initialByte cursor
    cases hrun : (parseLongHeaderInvariant initialByte).run cursor with
    | error e => trivial
    | ok result =>
      have hsuffix := (hinvariant.of_ok hrun).length_le
      dsimp only
      split
      · trivial
      · apply (parseLongHeaderVariants_ends _ _ _ _).imp
        rintro ⟨parsed, t⟩ ⟨hrest, hleaves⟩
        have hrest := hrest.length_le
        refine ⟨?_, hleaves⟩
        rw [List.length_cons]
        dsimp only at hrest ⊢
        omega

/-! ### Progress -/

/-- The state of a packet number space is dropped together with its keys. -/
def QuicReadCodec.StatesKept (c : QuicReadCodec) (ackStates : ReceivedStates) : Prop :=
  (c.initialHeaderCipher.isSome = true → c.initialReadCipher.isSome = true →
    ackStates.initialAckState.isSome = true) ∧
  (c.handshakeHeaderCipher.isSome = true → c.handshakeReadCipher.isSome = true →
    ackStates.handshakeAckState.isSome = true)

/-- What a packet that has been split off is read from. -/
structure SplitPacket.WellSplit (split : SplitPacket) : Prop where
  unchained : split.currentPacketData.Unchained
  long : split.parsedLongHeader.header.longHeaderType ≠ .retry
  length : split.currentPacketData.bytes.length =
    split.packetNumberOffset + split.parsedLongHeader.packetLength.packetLength
  sample : kMaxPacketNumEncodingSize + sizeofSample ≤ split.parsedLongHeader.packetLength.packetLength
  offset : 1 ≤ split.packetNumberOffset

theorem parsePacketNumberLength_le (initialByte : UInt8) :
    1 ≤ parsePacketNumberLength initialByte ∧
      parsePacketNumberLength initialByte ≤ kMaxPacketNumEncodingSize := by
  have hmask : (initialByte &&& kPacketNumLenMask).toNat ≤ 3 := by
    rw [UInt8.toNat_and]
    exact Nat.and_le_right
  unfold parsePacketNumberLength kMaxPacketNumEncodingSize
  omega

theorem readAt_ok {data : Bytes} {offset n : Nat} (h : offset + n ≤ data.length) :
    readAt data offset n = .ok ((data.drop offset).take n) := if_pos h

theorem splitLongHeaderPacket_progress (nodeType : QuicNodeType) {queue : BufQueue}
    (hq : queue.Unchained) (hne : queue.bytes ≠ []) :
    ∃ split rest, splitLongHeaderPacket nodeType queue = .ok (split, rest) ∧ rest.Unchained ∧
      rest.bytes <:+ queue.bytes ∧ rest.chainLength < queue.chainLength ∧
      ∀ packet, split = .packet packet → packet.WellSplit := by
  have hpos : 0 < queue.chainLength := by
    rw [← queue.length_bytes]
    exact List.length_pos_iff.mpr hne
  have hdone : ∀ result : CodecResult, ∃ split rest,
      Except.ok (LongSplit.done result, BufQueue.cleared) = (.ok (split, rest) : Except ReadFault _) ∧
      rest.Unchained ∧ rest.bytes <:+ queue.bytes ∧ rest.chainLength < queue.chainLength ∧
      ∀ packet, split = .packet packet → packet.WellSplit :=
    fun result => ⟨_, _, rfl, BufQueue.unchained_cleared, List.nil_suffix, hpos, by
      intro packet hpacket
      cases hpacket⟩
  have hends := tryParseLongHeader_ends nodeType queue.bytes
  unfold splitLongHeaderPacket
  cases hbytes : queue.bytes with
  | nil => exact absurd hbytes hne
  | cons initialByte tail =>
    dsimp only
    rw [← hbytes]
    cases hparse : (tryParseLongHeader nodeType).run queue.bytes with
    | error e => exact hdone .nothing
    | ok result =>
      obtain ⟨parsed, cursor⟩ := result
      obtain ⟨hcursor, hleaves⟩ := hends.of_ok hparse
      unfold HeaderLeaves at hleaves
      dsimp only at hcursor hleaves ⊢
      by_cases hretry : parsed.header.longHeaderType = .retry
      · rw [if_pos hretry] at hleaves ⊢
        rw [if_neg (by omega)]
        exact hdone _
      rw [if_neg hretry] at hleaves ⊢
      by_cases hshort : queue.chainLength <
          queue.bytes.length - cursor.length + parsed.packetLength.packetLength
      · rw [if_pos hshort]
        exact hdone .nothing
      rw [if_neg hshort]
      obtain ⟨hdata, hrest⟩ := hq.splitAtMost
        (queue.bytes.length - cursor.length + parsed.packetLength.packetLength)
      have hlength := queue.length_splitAtMost_fst
        (queue.bytes.length - cursor.length + parsed.packetLength.packetLength)
      have hleft := queue.chainLength_splitAtMost_snd
        (queue.bytes.length - cursor.length + parsed.packetLength.packetLength)
      have hsuffix := (queue.splitAtMost_bytes
        (queue.bytes.length - cursor.length + parsed.packetLength.packetLength)).2
      generalize queue.splitAtMost
        (queue.bytes.length - cursor.length + parsed.packetLength.packetLength) = parts at *
      rw [Nat.min_eq_left (Nat.le_of_not_lt hshort)] at hlength
      rw [if_neg (by omega)]
      split
      · exact hdone .nothing
      split
      · exact hdone .nothing
      · rename_i hsample
        refine ⟨_, _, rfl, hrest, hsuffix ▸ List.drop_suffix _ _, by omega, ?_⟩
        intro packet hpacket
        cases hpacket
        exact ⟨hdata, hretry, hlength, by dsimp only; omega, by dsimp only; omega⟩

theorem length_decipherHeader (headerCipher : PacketNumberCipher) (sample : Bytes)
    (initialByte : UInt8) (packetNumberBytes : Bytes) (mask : UInt8) :
    (headerCipher.decipherHeader sample initialByte packetNumberBytes mask).2.length =
      packetNumberBytes.length := by
  unfold PacketNumberCipher.decipherHeader
  dsimp only
  rw [List.length_append, List.length_mapIdx, List.length_take, List.length_drop]
  omega

theorem length_unprotect {data packetNumberBytes : Bytes} {initialByte : UInt8}
    {packetNumberOffset : Nat} (hoffset : 1 ≤ packetNumberOffset)
    (h : packetNumberOffset + packetNumberBytes.length ≤ data.length) :
    (unprotect data initialByte packetNumberOffset packetNumberBytes).length = data.length := by
  unfold unprotect
  rw [List.length_append, List.length_append, List.length_take, List.length_cons, List.length_tail,
    List.length_drop]
  omega

theorem openLongHeader_ok (headerCipher : PacketNumberCipher) (expected : UInt64)
    {split : SplitPacket} (h : split.WellSplit) :
    ∃ packet, openLongHeader headerCipher split expected = .ok packet := by
  obtain ⟨hunchained, -, hlength, hsample, hoffset⟩ := h
  rw [← hunchained.front_eq] at hlength
  unfold kMaxPacketNumEncodingSize sizeofSample at hsample
  unfold openLongHeader
  dsimp only
  rw [readAt_ok (by omega), except_ok_bind,
    readAt_ok (by unfold kMaxPacketNumEncodingSize; omega), except_ok_bind]
  generalize headerCipher.decipherHeader _ _ _ _ = deciphered
  have hnumber : (parsePacketNumber deciphered.1 deciphered.2 expected).2 ≤
      kMaxPacketNumEncodingSize := (parsePacketNumberLength_le deciphered.1).2
  unfold kMaxPacketNumEncodingSize at hnumber
  rw [if_neg (by omega)]
  exact ⟨_, rfl⟩

theorem readLongHeaderPacket_ok {c : QuicReadCodec} {ackStates : ReceivedStates}
    (hkept : c.StatesKept ackStates) {split : SplitPacket} (h : split.WellSplit) :
    ∃ received, readLongHeaderPacket c ackStates split = .ok received := by
  unfold readLongHeaderPacket
  dsimp only
  have hexpected : ∀ headerCipher cipher,
      c.ciphers (longHeaderTypeToProtectionType split.parsedLongHeader.header.longHeaderType) =
        some (some headerCipher, some cipher) →
      ∃ expected, ackStates.expectedNextPacketNum
        (longHeaderTypeToProtectionType split.parsedLongHeader.header.longHeaderType) =
          .ok expected := by
    intro headerCipher cipher hciphers
    generalize longHeaderTypeToProtectionType split.parsedLongHeader.header.longHeaderType = type
      at hciphers ⊢
    obtain ⟨hinitial, hhandshake⟩ := hkept
    cases type with
    | initial =>
      unfold QuicReadCodec.ciphers at hciphers
      dsimp only at hciphers
      split at hciphers
      · cases hciphers
      · obtain ⟨hheader, hread⟩ := Prod.mk.inj (Option.some.inj hciphers)
        obtain ⟨largest, hlargest⟩ := Option.isSome_iff_exists.mp
          (hinitial (by rw [hheader]; rfl) (by rw [hread]; rfl))
        exact ⟨nextExpected largest, by rw [ReceivedStates.expectedNextPacketNum, hlargest]⟩
    | handshake =>
      obtain ⟨hheader, hread⟩ := Prod.mk.inj (Option.some.inj hciphers)
      obtain ⟨largest, hlargest⟩ := Option.isSome_iff_exists.mp
        (hhandshake (by rw [hheader]; rfl) (by rw [hread]; rfl))
      exact ⟨nextExpected largest, by rw [ReceivedStates.expectedNextPacketNum, hlargest]⟩
    | zeroRtt => exact ⟨_, rfl⟩
    | keyPhaseZero => exact ⟨_, rfl⟩
    | keyPhaseOne => exact ⟨_, rfl⟩
  split
  · exact ⟨_, rfl⟩
  · rename_i headerCipher cipher hciphers
    obtain ⟨expected, hnext⟩ := hexpected headerCipher cipher hciphers
    obtain ⟨packet, hpacket⟩ := openLongHeader_ok headerCipher expected h
    rw [hnext, except_ok_bind, hpacket, except_ok_bind]
    split
    · exact ⟨_, rfl⟩
    · exact ⟨_, rfl⟩
  · exact ⟨_, rfl⟩

theorem tryParseShortHeaderPacket_ok (c : QuicReadCodec) (headerCipher : PacketNumberCipher)
    (cipher : Aead) (ackStates : ReceivedStates) {data : Buf} (hdata : data.Unchained)
    (dstConnIdSize : Nat) (cursor : Bytes) :
    ∃ received, tryParseShortHeaderPacket c headerCipher cipher ackStates data dstConnIdSize cursor =
      .ok received := by
  unfold tryParseShortHeaderPacket
  dsimp only
  by_cases hshort : data.bytes.length <
      1 + dstConnIdSize + kMaxPacketNumEncodingSize + sizeofSample
  · exact ⟨_, if_pos hshort⟩
  rw [if_neg hshort]
  rw [← hdata.front_eq] at hshort
  unfold kMaxPacketNumEncodingSize sizeofSample at hshort
  rw [readAt_ok (by omega), except_ok_bind,
    readAt_ok (by unfold kMaxPacketNumEncodingSize; omega), except_ok_bind,
    readAt_ok (by unfold kMaxPacketNumEncodingSize sizeofSample; omega), except_ok_bind]
  have hwidth := length_decipherHeader headerCipher
    ((data.front.drop (1 + dstConnIdSize + kMaxPacketNumEncodingSize)).take sizeofSample)
    (((data.front.drop 0).take 1).headD 0)
    ((data.front.drop (1 + dstConnIdSize)).take kMaxPacketNumEncodingSize) ShortHeader.kTypeBitsMask
  generalize headerCipher.decipherHeader _ _ _ _ = deciphered at hwidth ⊢
  rw [List.length_take, List.length_drop] at hwidth
  have hnumber : (parsePacketNumber deciphered.1 deciphered.2
      (nextExpected ackStates.appDataAckState)).2 ≤ kMaxPacketNumEncodingSize :=
    (parsePacketNumberLength_le deciphered.1).2
  unfold kMaxPacketNumEncodingSize at hwidth hnumber
  have hlength : (unprotect data.front deciphered.1 (1 + dstConnIdSize) deciphered.2).length =
      data.front.length := length_unprotect (by omega) (by omega)
  split
  · exact ⟨_, rfl⟩
  split
  · exact ⟨_, rfl⟩
  rw [readAt_ok (by rw [hlength]; omega), except_ok_bind]
  split
  · exact ⟨_, rfl⟩
  · exact ⟨_, rfl⟩

theorem resetToken_ok (c : QuicReadCodec) (initialByte : UInt8) (data : Buf) :
    ∃ token, resetToken c initialByte data = .ok token := by
  unfold resetToken
  split
  · split
    · exact ⟨_, rfl⟩
    · split
      · rename_i hlong
        rw [readAt_ok (by omega), except_ok_bind]
        exact ⟨_, rfl⟩
      · exact ⟨_, rfl⟩
  · exact ⟨_, rfl⟩

theorem readShortHeaderPacket_ok (c : QuicReadCodec) (ackStates : ReceivedStates)
    (initialByte : UInt8) {data : Buf} (hdata : data.Unchained) (dstConnIdSize : Nat)
    (cursor : Bytes) :
    ∃ received, readShortHeaderPacket c ackStates initialByte data dstConnIdSize cursor =
      .ok received := by
  unfold readShortHeaderPacket
  split
  · rename_i headerCipher cipher hheader hcipher
    obtain ⟨token, htoken⟩ := resetToken_ok c initialByte data
    obtain ⟨received, hreceived⟩ := tryParseShortHeaderPacket_ok c headerCipher cipher ackStates
      hdata dstConnIdSize cursor
    rw [htoken, except_ok_bind, hreceived, except_ok_bind]
    split
    · exact ⟨_, rfl⟩
    · exact ⟨_, rfl⟩
  · exact ⟨_, rfl⟩

/-- A call of `parsePacket`, with the keys and states of that moment. -/
structure ParseCall where
  codec : QuicReadCodec
  ackStates : ReceivedStates
  dstConnIdSize : Nat
  kept : codec.StatesKept ackStates

def ParseCall.parsePacket (call : ParseCall) (queue : BufQueue) :
    Except ReadFault (Received × BufQueue) :=
  MasqueQuic.parsePacket call.codec call.ackStates call.dstConnIdSize queue

/-- Every call takes something off the queue, and reads inside the datagram only. -/
theorem ParseCall.parsePacket_progress (call : ParseCall) {queue : BufQueue} (hq : queue.Unchained)
    (hne : queue.bytes ≠ []) :
    ∃ received rest, call.parsePacket queue = .ok (received, rest) ∧ rest.Unchained ∧
      rest.bytes <:+ queue.bytes ∧ rest.chainLength < queue.chainLength := by
  have hpos : 0 < queue.chainLength := by
    rw [← queue.length_bytes]
    exact List.length_pos_iff.mpr hne
  have hempty : ¬ queue.empty = true := fun hempty => hne (BufQueue.empty_iff.mp hempty)
  unfold ParseCall.parsePacket MasqueQuic.parsePacket
  rw [if_neg hempty]
  cases hbytes : queue.bytes with
  | nil => exact absurd hbytes hne
  | cons initialByte cursor =>
    dsimp only
    cases getHeaderForm initialByte with
    | long =>
      obtain ⟨split, rest, hsplit, hrest, hsuffix, hless, hwell⟩ :=
        splitLongHeaderPacket_progress call.codec.nodeType hq hne
      dsimp only
      unfold parseLongHeaderPacket
      rw [hsplit, except_ok_bind]
      cases split with
      | done result => exact ⟨_, _, rfl, hrest, by rwa [← hbytes], hless⟩
      | packet packet =>
        obtain ⟨received, hreceived⟩ := readLongHeaderPacket_ok call.kept (hwell packet rfl)
        dsimp only
        rw [hreceived, except_ok_bind]
        exact ⟨_, _, rfl, hrest, by rwa [← hbytes], hless⟩
    | short =>
      obtain ⟨received, hreceived⟩ := readShortHeaderPacket_ok call.codec call.ackStates
        initialByte (show Buf.Unchained queue.move.1 from hq) call.dstConnIdSize cursor
      dsimp only
      rw [hreceived, except_ok_bind]
      exact ⟨_, _, rfl, BufQueue.unchained_cleared, List.nil_suffix, hpos⟩

/-! ### Packets with a length -/

/-- A packet with a length as it is sent, with its protection: the first byte keeps its form and type,
and the bytes behind the length can be anything. They are enough for a sample. -/
structure LongPacket where
  initialByte : UInt8
  header : LongHeader
  tokenBytes : Bytes
  lenBytes : Bytes
  protectedBytes : Bytes
  form : getHeaderForm initialByte = .long
  type : parseLongHeaderType initialByte = header.longHeaderType
  hasLength : header.longHeaderType ≠ .retry
  version : header.invariant.version ≠ .versionNegotiation
  token : encodeToken header = .ok tokenBytes
  length : Varint protectedBytes.length lenBytes
  sample : kMaxPacketNumEncodingSize + sizeofSample ≤ protectedBytes.length

namespace LongPacket

def headerBytes (p : LongPacket) : Bytes :=
  p.initialByte :: (p.header.invariant.encoded ++ (p.tokenBytes ++ p.lenBytes))

def bytes (p : LongPacket) : Bytes := p.headerBytes ++ p.protectedBytes

/-- The header as it is read, before the packet number is known. -/
def parsed (p : LongPacket) : ParsedLongHeader :=
  ⟨⟨0, p.header.longHeaderType, p.header.invariant, p.header.sentToken⟩,
    ⟨p.protectedBytes.length, p.lenBytes.length⟩⟩

/-- A server takes Initial packets with long connection IDs only. -/
def ReceivedBy (p : LongPacket) (nodeType : QuicNodeType) : Prop :=
  p.header.longHeaderType = .initial → nodeType = .server →
    kMinInitialDestinationConnIdLength ≤ p.header.invariant.dstConnId.size

variable {p : LongPacket} {nodeType : QuicNodeType} {rest : Bytes}

theorem tryParseLongHeader_eq (h : p.ReceivedBy nodeType) (rest : Bytes) :
    (tryParseLongHeader nodeType).run (p.bytes ++ rest) =
      .ok (p.parsed, p.protectedBytes ++ rest) := by
  have hbytes : p.bytes ++ rest = p.initialByte :: (p.header.invariant.encoded ++
      (p.tokenBytes ++ (p.lenBytes ++ (p.protectedBytes ++ rest)))) := by
    simp only [bytes, headerBytes, List.cons_append, List.append_assoc]
  have hlength : p.protectedBytes.length ≤ (p.protectedBytes ++ rest).length := by
    rw [List.length_append]
    exact Nat.le_add_right _ _
  have hnumber : parsePacketNumberLength p.initialByte ≤ (p.protectedBytes ++ rest).length :=
    ((parsePacketNumberLength_le p.initialByte).2.trans ((Nat.le_add_right _ _).trans p.sample)).trans
      hlength
  change tryParseLongHeader nodeType (p.bytes ++ rest) = _
  unfold tryParseLongHeader
  rw [hbytes]
  dsimp only
  rw [accepts_parseLongHeaderInvariant]
  dsimp only
  rw [if_neg p.version, p.type, parseLongHeaderVariants_encoded p.token p.hasLength h p.length hlength
    hnumber]
  rfl

/-- The packet is cut off where it ends, whatever follows. -/
theorem split_eq {queue : BufQueue} (h : p.ReceivedBy nodeType) (hq : queue.Unchained)
    (hqueue : queue.bytes = p.bytes ++ rest) :
    ∃ data queue', splitLongHeaderPacket nodeType queue =
        .ok (.packet ⟨p.parsed, p.headerBytes.length, data,
          (p.protectedBytes.drop kMaxPacketNumEncodingSize).take sizeofSample⟩, queue') ∧
      data.bytes = p.bytes ∧ data.Unchained ∧ queue'.bytes = rest ∧ queue'.Unchained := by
  have hparse := tryParseLongHeader_eq h rest
  have hlength : p.bytes.length = p.headerBytes.length + p.protectedBytes.length :=
    List.length_append
  have htotal : queue.bytes.length = p.bytes.length + rest.length := by
    rw [hqueue, List.length_append]
  have hsample := p.sample
  obtain ⟨hdata, hrest⟩ := queue.splitAtMost_bytes p.bytes.length
  obtain ⟨hdataUnchained, hrestUnchained⟩ := hq.splitAtMost p.bytes.length
  rw [hqueue, List.take_left] at hdata
  rw [hqueue, List.drop_left] at hrest
  refine ⟨(queue.splitAtMost p.bytes.length).1, (queue.splitAtMost p.bytes.length).2, ?_, hdata,
    hdataUnchained, hrest, hrestUnchained⟩
  unfold splitLongHeaderPacket
  cases hcons : queue.bytes with
  | nil =>
    rw [hcons, List.length_nil, hlength, headerBytes, List.length_cons] at htotal
    omega
  | cons initialByte tail =>
    dsimp only
    rw [← hcons, hqueue, hparse]
    dsimp only
    rw [if_neg (show ¬ p.parsed.header.longHeaderType = .retry from p.hasLength)]
    have hoffset : (p.bytes ++ rest).length - (p.protectedBytes ++ rest).length =
        p.headerBytes.length := by
      rw [List.length_append, List.length_append]
      omega
    have hpacket : p.headerBytes.length + p.parsed.packetLength.packetLength = p.bytes.length :=
      hlength.symm
    rw [hoffset, hpacket, if_neg (by rw [← queue.length_bytes]; omega), hdata, if_neg (by omega),
      if_neg (by omega), if_neg (by omega)]
    rw [bytes, ← List.drop_drop, List.drop_left]

end LongPacket

/-! ### What a packet is read as -/

/-- Only the bytes of the buffer matter. -/
theorem readLongHeaderPacket_congr {c : QuicReadCodec} {ackStates : ReceivedStates}
    {parsed : ParsedLongHeader} {offset : Nat} {sample : Bytes} {data data' : Buf}
    (h : data.Unchained) (h' : data'.Unchained) (hbytes : data.bytes = data'.bytes) :
    readLongHeaderPacket c ackStates ⟨parsed, offset, data, sample⟩ =
      readLongHeaderPacket c ackStates ⟨parsed, offset, data', sample⟩ := by
  have hfront : data.front = data'.front := by rw [h.front_eq, h'.front_eq, hbytes]
  simp only [readLongHeaderPacket, openLongHeader, hfront, hbytes]

theorem readShortHeaderPacket_congr {c : QuicReadCodec} {ackStates : ReceivedStates}
    {initialByte : UInt8} {data data' : Buf} {dstConnIdSize : Nat} {cursor : Bytes}
    (h : data.Unchained) (h' : data'.Unchained) (hbytes : data.bytes = data'.bytes) :
    readShortHeaderPacket c ackStates initialByte data dstConnIdSize cursor =
      readShortHeaderPacket c ackStates initialByte data' dstConnIdSize cursor := by
  have hfront : data.front = data'.front := by rw [h.front_eq, h'.front_eq, hbytes]
  simp only [readShortHeaderPacket, resetToken, tryParseShortHeaderPacket, hfront, hbytes]

/-- A datagram that holds these bytes only. -/
def datagram (bytes : Bytes) : BufQueue := .ofBuf (some (.wrapBuffer bytes))

theorem unchained_datagram (bytes : Bytes) : (datagram bytes).Unchained := Nat.le_refl 1

theorem bytes_datagram (bytes : Bytes) : (datagram bytes).bytes = bytes := by
  rw [datagram, BufQueue.bytes_ofBuf, Buf.bytes_some, IOBuf.bytes_wrapBuffer]

/-- A packet that takes the rest of the datagram. -/
structure ShortPacket where
  initialByte : UInt8
  tail : Bytes
  form : getHeaderForm initialByte = .short

def ShortPacket.bytes (p : ShortPacket) : Bytes := p.initialByte :: p.tail

inductive WirePacket where
  | long (p : LongPacket)
  | short (p : ShortPacket)

namespace WirePacket

def bytes : WirePacket → Bytes
  | .long p => p.bytes
  | .short p => p.bytes

/-- The header is that of the packet, with some packet number. -/
def HasHeader : WirePacket → PacketHeader → Prop
  | .long p, header =>
      ∃ packetNum, header = .long { p.parsed.header with packetSequenceNum := packetNum }
  | .short _, header => ∃ shortHeader, header = .short shortHeader

/-- The call took this packet off the queue, and made of it what it makes of the packet alone. -/
structure SeenBy (w : WirePacket) (call : ParseCall) (seen : Bytes × Received) : Prop where
  bytes : seen.1 = w.bytes
  alone : ∃ left, call.parsePacket (datagram w.bytes) = .ok (seen.2, left) ∧ left.bytes = []
  header : ∀ header frames, seen.2 = .ok (.regular header frames) → w.HasHeader header

end WirePacket

theorem decodeFrames_header {c : QuicReadCodec} {header header' : PacketHeader} {decrypted : Buf}
    {frames : List QuicFrame} (h : decodeFrames c header decrypted = .ok (.regular header' frames)) :
    header' = header := by
  unfold decodeFrames at h
  dsimp only at h
  split at h
  · cases h
  · cases h
    rfl

theorem readLongHeaderPacket_header {c : QuicReadCodec} {ackStates : ReceivedStates}
    {split : SplitPacket} {header : PacketHeader} {frames : List QuicFrame}
    (h : readLongHeaderPacket c ackStates split = .ok (.ok (.regular header frames))) :
    ∃ packetNum, header =
      .long { split.parsedLongHeader.header with packetSequenceNum := packetNum } := by
  unfold readLongHeaderPacket at h
  dsimp only at h
  split at h
  · cases h
  · simp only [except_bind_eq_ok] at h
    obtain ⟨expected, -, packet, -, hreturn⟩ := h
    split at hreturn
    · cases hreturn
    · exact ⟨packet.packetNum, decodeFrames_header (Except.ok.inj hreturn)⟩
  · cases h

theorem tryParseShortHeaderPacket_header {c : QuicReadCodec} {headerCipher : PacketNumberCipher}
    {cipher : Aead} {ackStates : ReceivedStates} {data : Buf} {dstConnIdSize : Nat} {cursor : Bytes}
    {header : PacketHeader} {frames : List QuicFrame}
    (h : tryParseShortHeaderPacket c headerCipher cipher ackStates data dstConnIdSize cursor =
      .ok (.ok (.regular header frames))) : ∃ shortHeader, header = .short shortHeader := by
  unfold tryParseShortHeaderPacket at h
  dsimp only at h
  split at h
  · cases h
  · simp only [except_bind_eq_ok] at h
    obtain ⟨first, -, number, -, sample, -, hrest⟩ := h
    split at hrest
    · cases hrest
    · split at hrest
      · cases hrest
      · rw [except_bind_eq_ok] at hrest
        obtain ⟨headerData, -, hreturn⟩ := hrest
        split at hreturn
        · cases hreturn
        · exact ⟨_, decodeFrames_header (Except.ok.inj hreturn)⟩

theorem readShortHeaderPacket_header {c : QuicReadCodec} {ackStates : ReceivedStates}
    {initialByte : UInt8} {data : Buf} {dstConnIdSize : Nat} {cursor : Bytes} {header : PacketHeader}
    {frames : List QuicFrame}
    (h : readShortHeaderPacket c ackStates initialByte data dstConnIdSize cursor =
      .ok (.ok (.regular header frames))) : ∃ shortHeader, header = .short shortHeader := by
  unfold readShortHeaderPacket at h
  split at h
  · simp only [except_bind_eq_ok] at h
    obtain ⟨token, -, packet, hpacket, hreturn⟩ := h
    split at hreturn
    · cases hreturn
    · cases hreturn
      exact tryParseShortHeaderPacket_header hpacket
  · cases h

namespace ParseCall

variable {call : ParseCall} {queue : BufQueue}

/-- The first byte says which of the two headers is read. -/
theorem parsePacket_cons {initialByte : UInt8} {cursor : Bytes}
    (hqueue : queue.bytes = initialByte :: cursor) :
    call.parsePacket queue = match getHeaderForm initialByte with
      | .long => parseLongHeaderPacket call.codec call.ackStates queue
      | .short => do
          let received ← readShortHeaderPacket call.codec call.ackStates initialByte queue.move.1
            call.dstConnIdSize cursor
          return (received, queue.move.2) := by
  have hempty : ¬ queue.empty = true := by
    intro hempty
    rw [BufQueue.empty_iff.mp hempty] at hqueue
    cases hqueue
  unfold ParseCall.parsePacket MasqueQuic.parsePacket
  rw [if_neg hempty]
  cases hbytes : queue.bytes with
  | nil =>
    rw [hbytes] at hqueue
    cases hqueue
  | cons first tail =>
    rw [hbytes] at hqueue
    cases hqueue
    rfl

theorem parsePacket_of_long {p : LongPacket} {rest : Bytes} (hqueue : queue.bytes = p.bytes ++ rest) :
    call.parsePacket queue = parseLongHeaderPacket call.codec call.ackStates queue := by
  have hcons : queue.bytes = p.initialByte :: (p.header.invariant.encoded ++
      (p.tokenBytes ++ p.lenBytes) ++ p.protectedBytes ++ rest) := by
    rw [hqueue, LongPacket.bytes, LongPacket.headerBytes, List.cons_append, List.cons_append]
  rw [parsePacket_cons hcons, p.form]

/-- A packet with a length is taken off the queue, and read as if it were alone. -/
theorem parsePacket_long {p : LongPacket} {rest : Bytes} (h : p.ReceivedBy call.codec.nodeType)
    (hq : queue.Unchained) (hqueue : queue.bytes = p.bytes ++ rest) :
    ∃ received queue', call.parsePacket queue = .ok (received, queue') ∧ queue'.bytes = rest ∧
      queue'.Unchained ∧ (WirePacket.long p).SeenBy call (p.bytes, received) := by
  have hsingle : (datagram p.bytes).bytes = p.bytes ++ [] := by rw [bytes_datagram, List.append_nil]
  obtain ⟨data, queue', hsplit, hdata, hunchained, hrest, hq'⟩ := p.split_eq h hq hqueue
  obtain ⟨data', left, hsplit', hdata', hunchained', hleft, -⟩ :=
    p.split_eq h (unchained_datagram p.bytes) hsingle
  have hwell : SplitPacket.WellSplit ⟨p.parsed, p.headerBytes.length, data,
      (p.protectedBytes.drop kMaxPacketNumEncodingSize).take sizeofSample⟩ :=
    ⟨hunchained, p.hasLength, by rw [hdata]; exact List.length_append, p.sample,
      Nat.succ_le_succ (Nat.zero_le _)⟩
  obtain ⟨received, hreceived⟩ := readLongHeaderPacket_ok call.kept hwell
  have halone := hreceived
  rw [readLongHeaderPacket_congr hunchained hunchained' (hdata.trans hdata'.symm)] at halone
  refine ⟨received, queue', ?_, hrest, hq', rfl, ⟨left, ?_, hleft⟩, ?_⟩
  · rw [parsePacket_of_long hqueue, parseLongHeaderPacket, hsplit, except_ok_bind]
    dsimp only
    rw [hreceived, except_ok_bind]
    rfl
  · rw [show (WirePacket.long p).bytes = p.bytes from rfl, parsePacket_of_long hsingle,
      parseLongHeaderPacket, hsplit', except_ok_bind]
    dsimp only
    rw [halone, except_ok_bind]
    rfl
  · intro header frames hregular
    dsimp only at hregular
    rw [hregular] at hreceived
    exact readLongHeaderPacket_header hreceived

theorem parsePacket_of_short {p : ShortPacket} (hqueue : queue.bytes = p.bytes) :
    call.parsePacket queue = (do
      let received ← readShortHeaderPacket call.codec call.ackStates p.initialByte queue.move.1
        call.dstConnIdSize p.tail
      return (received, queue.move.2)) := by
  have hcons : queue.bytes = p.initialByte :: p.tail := hqueue
  rw [parsePacket_cons hcons, p.form]

/-- The last packet is taken off whole. -/
theorem parsePacket_short {p : ShortPacket} (hq : queue.Unchained) (hqueue : queue.bytes = p.bytes) :
    ∃ received queue', call.parsePacket queue = .ok (received, queue') ∧ queue'.bytes = [] ∧
      (WirePacket.short p).SeenBy call (p.bytes, received) := by
  have hsingle := bytes_datagram p.bytes
  obtain ⟨received, hreceived⟩ := readShortHeaderPacket_ok call.codec call.ackStates p.initialByte
    (show Buf.Unchained queue.move.1 from hq) call.dstConnIdSize p.tail
  have halone := hreceived
  rw [@readShortHeaderPacket_congr _ _ _ queue.move.1 (datagram p.bytes).move.1 _ _ hq
    (unchained_datagram p.bytes) (hqueue.trans hsingle.symm)] at halone
  refine ⟨received, queue.move.2, ?_, rfl, rfl, ⟨(datagram p.bytes).move.2, ?_, rfl⟩, ?_⟩
  · rw [parsePacket_of_short hqueue, hreceived, except_ok_bind]
    rfl
  · rw [show (WirePacket.short p).bytes = p.bytes from rfl, parsePacket_of_short hsingle, halone,
      except_ok_bind]
    rfl
  · intro header frames hregular
    dsimp only at hregular
    rw [hregular] at hreceived
    exact readShortHeaderPacket_header hreceived

end ParseCall

/-- Repeated calls, until nothing is left: what each call took off the queue, and what it made of it. -/
def parsePackets : List ParseCall → BufQueue →
    Except ReadFault (List (Bytes × Received) × BufQueue)
  | [], queue => .ok ([], queue)
  | call :: calls, queue =>
      if queue.empty then .ok ([], queue)
      else do
        let (received, rest) ← call.parsePacket queue
        let (packets, left) ← parsePackets calls rest
        return ((queue.bytes.take (queue.chainLength - rest.chainLength), received) :: packets, left)

theorem parsePackets_empty (calls : List ParseCall) {queue : BufQueue} (h : queue.bytes = []) :
    parsePackets calls queue = .ok ([], queue) := by
  cases calls with
  | nil => rfl
  | cons call calls => exact if_pos (BufQueue.empty_iff.mpr h)

/-- One call and then the others. -/
theorem parsePackets_cons {call : ParseCall} {calls : List ParseCall} {queue rest left : BufQueue}
    {taken : Bytes} {received : Received} {seen : List (Bytes × Received)} (hne : taken ≠ [])
    (htaken : taken ++ rest.bytes = queue.bytes)
    (hcall : call.parsePacket queue = .ok (received, rest))
    (hcalls : parsePackets calls rest = .ok (seen, left)) :
    parsePackets (call :: calls) queue = .ok ((taken, received) :: seen, left) := by
  have hempty : ¬ queue.empty = true := by
    intro hempty
    rw [BufQueue.empty_iff.mp hempty] at htaken
    exact hne (List.append_eq_nil_iff.mp htaken).1
  have hlength : queue.chainLength = taken.length + rest.chainLength := by
    rw [← queue.length_bytes, ← htaken, List.length_append, rest.length_bytes]
  have htake : queue.bytes.take (queue.chainLength - rest.chainLength) = taken := by
    rw [hlength, Nat.add_sub_cancel, ← htaken, List.take_left]
  unfold parsePackets
  rw [if_neg hempty, hcall, except_ok_bind]
  dsimp only
  rw [hcalls, except_ok_bind, htake]
  rfl

/-- On every datagram, the calls take it apart, and enough of them take all of it. -/
theorem parsePackets_progress (calls : List ParseCall) {queue : BufQueue} (hq : queue.Unchained) :
    ∃ packets left, parsePackets calls queue = .ok (packets, left) ∧
      (packets.map (·.1)).flatten ++ left.bytes = queue.bytes ∧
      (∀ packet ∈ packets, packet.1 ≠ []) ∧
      (queue.chainLength ≤ calls.length → left.bytes = []) := by
  induction calls generalizing queue with
  | nil =>
    refine ⟨[], queue, rfl, rfl, fun _ hmem => (List.not_mem_nil hmem).elim, fun hlen => ?_⟩
    rw [← List.length_eq_zero_iff, queue.length_bytes]
    exact Nat.le_zero.mp hlen
  | cons call calls ih =>
    by_cases hempty : queue.empty = true
    · refine ⟨[], queue, if_pos hempty, rfl, fun _ hmem => (List.not_mem_nil hmem).elim, ?_⟩
      exact fun _ => BufQueue.empty_iff.mp hempty
    have hne : queue.bytes ≠ [] := fun hnil => hempty (BufQueue.empty_iff.mpr hnil)
    obtain ⟨received, rest, hcall, hrest, hsuffix, hless⟩ := call.parsePacket_progress hq hne
    obtain ⟨packets, left, hcalls, hflatten, hnonempty, hall⟩ := ih hrest
    obtain ⟨taken, htaken⟩ := hsuffix
    have hlength : queue.chainLength = taken.length + rest.chainLength := by
      rw [← queue.length_bytes, ← htaken, List.length_append, rest.length_bytes]
    have htakenNe : taken ≠ [] := by
      intro hnil
      rw [hnil, List.length_nil] at hlength
      omega
    refine ⟨(taken, received) :: packets, left, parsePackets_cons htakenNe htaken hcall hcalls, ?_,
      List.forall_mem_cons.mpr ⟨htakenNe, hnonempty⟩, fun hlen => hall ?_⟩
    · rw [List.map_cons, List.flatten_cons, List.append_assoc, hflatten, htaken]
    · rw [List.length_cons] at hlen
      have hpos := List.length_pos_iff.mpr htakenNe
      omega

/-- The packets of a datagram: some with a length, and one at the end that needs none. -/
structure CoalescedDatagram where
  long : List LongPacket
  last : Option ShortPacket

namespace CoalescedDatagram

def packets (d : CoalescedDatagram) : List WirePacket :=
  d.long.map .long ++ d.last.toList.map .short

def bytes (d : CoalescedDatagram) : Bytes := d.packets.flatMap WirePacket.bytes

/-- The packets of a datagram are seen one by one, in order, each as if it were alone. -/
theorem seen (d : CoalescedDatagram) {nodeType : QuicNodeType} {calls : List ParseCall}
    (hnode : ∀ call ∈ calls, call.codec.nodeType = nodeType)
    (hreceived : ∀ p ∈ d.long, p.ReceivedBy nodeType) (hlen : d.packets.length ≤ calls.length)
    {queue : BufQueue} (hq : queue.Unchained) (hqueue : queue.bytes = d.bytes) :
    ∃ seen left, parsePackets calls queue = .ok (seen, left) ∧ left.bytes = [] ∧
      List.Forall₂ (fun packet seen => packet.1.SeenBy packet.2 seen) (d.packets.zip calls) seen := by
  obtain ⟨long, last⟩ := d
  induction long generalizing queue calls with
  | nil =>
    cases last with
    | none => exact ⟨[], queue, parsePackets_empty calls hqueue, hqueue, .nil⟩
    | some p =>
      cases calls with
      | nil => exact absurd hlen (by simp [packets])
      | cons call calls =>
        have hbytes : queue.bytes = p.bytes := hqueue.trans (List.append_nil _)
        obtain ⟨received, queue', hcall, hempty, hseen⟩ := call.parsePacket_short hq hbytes
        refine ⟨[(p.bytes, received)], queue', parsePackets_cons (List.cons_ne_nil _ _) ?_ hcall
          (parsePackets_empty calls hempty), hempty, .cons hseen .nil⟩
        rw [hempty, List.append_nil, hbytes]
  | cons p long ih =>
    cases calls with
    | nil => exact absurd hlen (by simp [packets])
    | cons call calls =>
      obtain ⟨hp, hlong⟩ := List.forall_mem_cons.mp hreceived
      obtain ⟨hcallNode, hcallsNode⟩ := List.forall_mem_cons.mp hnode
      have hbytes : queue.bytes = p.bytes ++ bytes ⟨long, last⟩ := hqueue
      obtain ⟨received, queue', hcall, hrest, hq', hseen⟩ :=
        call.parsePacket_long (hcallNode ▸ hp) hq hbytes
      obtain ⟨seen, left, hcalls, hleft, hall⟩ := ih hcallsNode hq' hlong
        (Nat.le_of_succ_le_succ hlen) hrest
      refine ⟨(p.bytes, received) :: seen, left, parsePackets_cons ?_ ?_ hcall hcalls, hleft,
        .cons hseen hall⟩
      · exact List.cons_ne_nil _ _
      · rw [hrest, hbytes]

end CoalescedDatagram

/-! ### Datagrams -/

/-- Every call on a queue that is not empty removes something and stays inside the datagram; enough calls
take all of it. The packets of a datagram that follow the format, of which only the last may come
without a length, are seen one by one whatever the keys are. -/
theorem datagram_split :
    (∀ (call : ParseCall) (queue : BufQueue), queue.Unchained → queue.bytes ≠ [] →
      ∃ received rest, call.parsePacket queue = .ok (received, rest) ∧ rest.Unchained ∧
        rest.bytes <:+ queue.bytes ∧ rest.chainLength < queue.chainLength) ∧
    (∀ (calls : List ParseCall) (bytes : Bytes), ∃ packets left,
      parsePackets calls (datagram bytes) = .ok (packets, left) ∧
      (packets.map (·.1)).flatten ++ left.bytes = bytes ∧ (∀ packet ∈ packets, packet.1 ≠ []) ∧
      (bytes.length ≤ calls.length → left.bytes = [])) ∧
    ∀ (d : CoalescedDatagram) (nodeType : QuicNodeType) (calls : List ParseCall),
      (∀ call ∈ calls, call.codec.nodeType = nodeType) → (∀ p ∈ d.long, p.ReceivedBy nodeType) →
      d.packets.length ≤ calls.length →
      ∃ seen left, parsePackets calls (datagram d.bytes) = .ok (seen, left) ∧ left.bytes = [] ∧
        List.Forall₂ (fun packet seen => packet.1.SeenBy packet.2 seen) (d.packets.zip calls)
          seen := by
  refine ⟨?progress, ?all, ?seen⟩
  case progress =>
    intro call queue hq hne
    exact call.parsePacket_progress hq hne
  case all =>
    intro calls bytes
    obtain ⟨packets, left, hcalls, hflatten, hnonempty, hall⟩ :=
      parsePackets_progress calls (unchained_datagram bytes)
    rw [bytes_datagram] at hflatten
    rw [← BufQueue.length_bytes, bytes_datagram] at hall
    exact ⟨packets, left, hcalls, hflatten, hnonempty, hall⟩
  case seen =>
    intro d nodeType calls hnode hreceived hlen
    exact d.seen hnode hreceived hlen (unchained_datagram d.bytes) (bytes_datagram d.bytes)

/-- An endpoint without any keys. -/
def ParseCall.keyless (nodeType : QuicNodeType) : ParseCall where
  codec := ⟨nodeType, none, none, none, none, none, none, false, none, none, none, .default⟩
  ackStates := ⟨none, none, none⟩
  dstConnIdSize := 0
  kept := by
    constructor
    · intro h
      cases h
    · intro h
      cases h

/-- A Handshake packet of the least size. -/
def smallHandshakePacket : LongPacket where
  initialByte := 0xe5
  header := ⟨0, .handshake, ⟨.quicV1, repeatedConnectionId 3, repeatedConnectionId 0⟩, []⟩
  tokenBytes := []
  lenBytes := [20]
  protectedBytes := List.replicate 20 9
  form := by decide
  type := by decide
  hasLength := by decide
  version := by decide
  token := rfl
  length := varint_byte (by decide)
  sample := by decide

/-- Two Handshake packets and a short header packet, without keys. -/
theorem datagram_split_keyless :
    ∃ seen left, parsePackets [.keyless .client, .keyless .client, .keyless .client]
        (datagram (smallHandshakePacket.bytes ++ smallHandshakePacket.bytes ++ [0x40, 1, 2])) =
          .ok (seen, left) ∧ left.bytes = [] ∧
      seen.map (·.1) = [smallHandshakePacket.bytes, smallHandshakePacket.bytes, [0x40, 1, 2]] := by
  obtain ⟨seen, left, hrun, hleft, hseen⟩ := datagram_split.2.2
    ⟨[smallHandshakePacket, smallHandshakePacket], some ⟨0x40, [1, 2], by decide⟩⟩ .client
    [.keyless .client, .keyless .client, .keyless .client]
    (by simp [ParseCall.keyless]) (by
      intro p _ hinitial hserver
      cases hserver) (by decide)
  refine ⟨seen, left, hrun, hleft, ?_⟩
  cases hseen with
  | cons h₁ hseen =>
    cases hseen with
    | cons h₂ hseen =>
      cases hseen with
      | cons h₃ hseen =>
        cases hseen
        rw [List.map_cons, List.map_cons, List.map_cons, h₁.bytes, h₂.bytes, h₃.bytes]
        rfl

/-- A Retry packet takes what follows it, and so does an Initial packet that a server does not take. -/
theorem datagram_split_exceptions :
    (∃ retryPacket result, buildRetryPacket (repeatedConnectionId 0) (repeatedConnectionId 0) .quicV1 [9]
          (List.replicate 16 4) = .ok (some retryPacket) ∧
      parsePackets [.keyless .client, .keyless .client]
        (datagram (retryPacket ++ smallHandshakePacket.bytes)) = .ok result ∧
      result.1.map (·.1) = [retryPacket ++ smallHandshakePacket.bytes]) ∧
    ∃ p : LongPacket, ∃ result,
      parsePackets [.keyless .server, .keyless .server]
        (datagram (p.bytes ++ smallHandshakePacket.bytes)) = .ok result ∧
      result.1.map (·.1) = [p.bytes ++ smallHandshakePacket.bytes] := by
  constructor
  · exact ⟨_, _, rfl, rfl, rfl⟩
  · exact ⟨{
      initialByte := 0xc0
      header := ⟨0, .initial, ⟨.quicV1, repeatedConnectionId 3, repeatedConnectionId 4⟩, []⟩
      tokenBytes := [0]
      lenBytes := [20]
      protectedBytes := List.replicate 20 9
      form := by decide
      type := by decide
      hasLength := by decide
      version := by decide
      token := rfl
      length := varint_byte (by decide)
      sample := by decide }, _, rfl, rfl⟩

end MasqueQuic
