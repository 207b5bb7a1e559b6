/-
Packets with their protection.

The body of a long header packet is sealed, and its header protected with a mask made of a sample of
the sealed bytes (`quic/codec/PacketNumberCipher.cpp`, `quic/api/QuicTransportFunctions.cpp`). A
receiver with the keys undoes both (`protectedPacket_opened`).
-/

import MasqueQuic.Quic.CoalescedPackets

namespace MasqueQuic

/-! ### The sender -/

/-- The first byte, and the bytes of the packet number, whose length it gives. -/
def PacketNumberCipher.cipherHeader (cipher : PacketNumberCipher) (sample : Bytes)
    (initialByte : UInt8) (packetNumberBytes : Bytes) (initialByteMask : UInt8) : UInt8 × Bytes :=
  let headerMask := cipher.mask sample
  (initialByte ^^^ (headerMask 0 &&& initialByteMask),
    packetNumberBytes.mapIdx fun i byte => byte ^^^ headerMask (i + 1))

/-- `none` if the `CHECK` on the length of the body fails. -/
def encryptPacketHeader (headerForm : HeaderForm) (header encryptedBody : Bytes)
    (headerCipher : PacketNumberCipher) : Option Bytes :=
  let packetNumberLength := parsePacketNumberLength (header.headD 0)
  let sampleBytesToUse := kMaxPacketNumEncodingSize - packetNumberLength
  if encryptedBody.length < sampleBytesToUse + sizeofSample then none
  else
    let sample := (encryptedBody.drop sampleBytesToUse).take sizeofSample
    let packetNumberOffset := header.length - packetNumberLength
    let (initialByte, packetNumberBytes) := headerCipher.cipherHeader sample (header.headD 0)
      (header.drop packetNumberOffset) (match headerForm with
        | .long => LongHeader.kTypeBitsMask
        | .short => ShortHeader.kTypeBitsMask)
    some (initialByte :: ((header.take packetNumberOffset).tail ++ packetNumberBytes))

/-- What one side seals, the other opens. -/
structure EncryptsFor (encrypt : Bytes → Bytes → UInt64 → Bytes) (overhead : Nat) (cipher : Aead) :
    Prop where
  length : ∀ body header number, (encrypt body header number).length = body.length + overhead
  opens : ∀ body header number,
    cipher.tryDecrypt (encrypt body header number) header number = some (some (.wrapBuffer body))

/-! ### Masks -/

theorem xor_and_distrib (a b c : UInt8) : (a ^^^ b) &&& c = (a &&& c) ^^^ (b &&& c) := by
  apply UInt8.eq_of_toBitVec_eq
  ext i hi
  simp [Bool.and_xor_distrib_right]

/-- Header protection leaves the bits of the form and the type alone. -/
theorem protected_and {mask : UInt8} (h : LongHeader.kTypeBitsMask &&& mask = 0)
    (initialByte m : UInt8) :
    (initialByte ^^^ (m &&& LongHeader.kTypeBitsMask)) &&& mask = initialByte &&& mask := by
  rw [xor_and_distrib, UInt8.and_assoc, h, UInt8.and_zero, UInt8.xor_zero]

theorem xor_cancel (a m : UInt8) : a ^^^ m ^^^ m = a := by
  rw [UInt8.xor_assoc, UInt8.xor_self, UInt8.xor_zero]

/-- The length of the number is read from the first byte when its protection is off. -/
theorem PacketNumberCipher.decipherHeader_cipherHeader (cipher : PacketNumberCipher) (sample : Bytes)
    {first : UInt8} {number : Bytes} (hlength : parsePacketNumberLength first = number.length)
    (mask : UInt8) (rest : Bytes) :
    let sent := cipher.cipherHeader sample first number mask
    cipher.decipherHeader sample sent.1 (sent.2 ++ rest) mask = (first, number ++ rest) := by
  unfold decipherHeader cipherHeader
  dsimp only
  rw [xor_cancel, hlength, List.take_left' List.length_mapIdx,
    List.drop_left' List.length_mapIdx, List.mapIdx_mapIdx]
  congr 2
  apply List.ext_getElem
  · rw [List.length_mapIdx]
  · intro i _ _
    rw [List.getElem_mapIdx]
    exact xor_cancel _ _

/-! ### The receiver -/

/-- The sample is the one that the sender took, so that the mask is its mask. -/
theorem LongPacket.openLongHeader_eq {p : LongPacket} {data : Buf} (hunchained : data.Unchained)
    (hdata : data.bytes = p.bytes) {cipher : PacketNumberCipher} {first : UInt8}
    {tail number body : Bytes} {sent : UInt8 × Bytes} {skipped : Nat}
    (hlength : parsePacketNumberLength first = number.length)
    (hskipped : number.length + skipped = kMaxPacketNumEncodingSize)
    (hsent : cipher.cipherHeader ((body.drop skipped).take sizeofSample) first number
      LongHeader.kTypeBitsMask = sent)
    (hheader : p.headerBytes = sent.1 :: tail) (hprotected : p.protectedBytes = sent.2 ++ body)
    (expected : UInt64) :
    openLongHeader cipher ⟨p.parsed, p.headerBytes.length, data,
        (p.protectedBytes.drop kMaxPacketNumEncodingSize).take sizeofSample⟩ expected =
      .ok ⟨decodePacketNumber (UInt64.ofNat (beNat number)) number.length expected,
        first :: (tail ++ number), body⟩ := by
  have hnumber : sent.2.length = number.length := by
    rw [← hsent]
    exact List.length_mapIdx
  have henough := p.sample
  rw [hprotected, List.length_append] at henough
  have hsample : (p.protectedBytes.drop kMaxPacketNumEncodingSize).take sizeofSample =
      (body.drop skipped).take sizeofSample := by
    rw [hprotected, ← hskipped, ← hnumber, List.drop_length_add_append]
  have hbytes : data.front = sent.1 :: (tail ++ (sent.2 ++ body)) := by
    rw [hunchained.front_eq, hdata, LongPacket.bytes, hheader, hprotected, List.cons_append]
  have hread : (data.front.drop (tail.length + 1)).take kMaxPacketNumEncodingSize =
      sent.2 ++ body.take skipped := by
    rw [hbytes, List.drop_succ_cons, List.drop_left, ← hskipped, ← hnumber,
      List.take_length_add_append]
  have hdecipher := cipher.decipherHeader_cipherHeader ((body.drop skipped).take sizeofSample) hlength
    LongHeader.kTypeBitsMask (body.take skipped)
  rw [hsent] at hdecipher
  have hparse : parsePacketNumber first (number ++ body.take skipped) expected =
      (decodePacketNumber (UInt64.ofNat (beNat number)) number.length expected, number.length) := by
    rw [parsePacketNumber, hlength, List.take_left]
  have hplain : unprotect data.front first (tail.length + 1) (number ++ body.take skipped) =
      (first :: (tail ++ number)) ++ body := by
    have hrest : (sent.2 ++ body).drop (number.length + skipped) = body.drop skipped := by
      rw [← hnumber, List.drop_length_add_append]
    rw [unprotect, hbytes, List.tail_cons, List.take_succ_cons, List.take_left, List.length_append,
      List.length_take, Nat.min_eq_left (by omega), Nat.add_right_comm, List.drop_succ_cons,
      List.drop_length_add_append, hrest, List.append_assoc, List.take_append_drop]
    simp only [List.cons_append, List.append_assoc]
  have hpacket : p.parsed.packetLength.packetLength = number.length + body.length := by
    rw [← hnumber, ← List.length_append, ← hprotected]
    rfl
  have hwhole : tail.length + 1 + number.length = (first :: (tail ++ number)).length := by
    rw [List.length_cons, List.length_append, Nat.add_right_comm]
  unfold openLongHeader
  dsimp only
  rw [hsample, hheader, List.length_cons, readAt_ok (by rw [hbytes]; simp), except_ok_bind,
    readAt_ok (by rw [hbytes]; simp; omega), except_ok_bind, hread,
    show ((data.front.drop 0).take 1).headD 0 = sent.1 by rw [hbytes]; rfl, hdecipher]
  dsimp only
  rw [hparse]
  dsimp only
  rw [hplain, hpacket, if_neg (by omega), hwhole, List.take_left, List.drop_left,
    Nat.add_sub_cancel_left, List.take_length]
  rfl

/-! ### Packets of the builders -/

variable {limit : UInt32} {header : LongHeader} {largestAckedPacketNum : UInt64} {overhead : UInt8}
  {packet : BuiltPacket} {encoding : PacketNumEncodingResult}

theorem encodePacketNumber_lt {packetNum : UInt64}
    (h : encodePacketNumber packetNum largestAckedPacketNum = .ok encoding) :
    encoding.result < 256 ^ encoding.length := by
  unfold encodePacketNumber at h
  dsimp only at h
  generalize (if findLastSet ((packetNum - largestAckedPacketNum) * 2) = 0 then 1 else _) = n at h
  split at h
  · cases h
  · cases h
    rw [show 256 = 2 ^ 8 from rfl, ← Nat.pow_mul]
    exact Nat.lt_of_le_of_lt Nat.and_le_right (Nat.sub_lt (Nat.pow_pos (by decide)) (by decide))

section

variable (h : BuiltFor limit (.long header) largestAckedPacketNum overhead packet)
  (hretry : header.longHeaderType ≠ .retry)
  (hversion : header.invariant.version ≠ .versionNegotiation)
  (hencoding : encodePacketNumber header.packetSequenceNum largestAckedPacketNum = .ok encoding)
  (hsample : kMaxPacketNumEncodingSize + sizeofSample ≤
    encoding.length + packet.body.length + overhead.toNat)

include h hretry hversion hencoding hsample

/-- With its header protected and its body sealed it is a packet with a length, whatever the mask is,
and whatever the protected bytes are. -/
theorem BuiltFor.longPacket (m : UInt8) (protectedBytes : Bytes)
    (hprotected : protectedBytes.length = encoding.length + packet.body.length + overhead.toNat) :
    ∃ p : LongPacket, p.header = header ∧ p.protectedBytes = protectedBytes ∧ ∃ first tail,
      parsePacketNumberLength first = encoding.length ∧
      packet.header = first :: (tail ++ beBytes encoding.length encoding.result) ∧
      p.headerBytes = (first ^^^ (m &&& LongHeader.kTypeBitsMask)) :: tail := by
  obtain ⟨encoding', bytes, space, hencode, hbuilt⟩ := h.headerBuilt
  rw [if_neg hretry] at hbuilt
  obtain ⟨lenBytes, hlen, hheader⟩ := hbuilt
  obtain ⟨hencoding', tokenBytes, htoken, hbytes, -⟩ := encodeLongHeaderHelper_ok hencode
  rw [hencoding] at hencoding'
  cases hencoding'
  obtain ⟨hlow, hhigh⟩ := length_packetNumber hencoding
  obtain ⟨hform, htype, hnumber⟩ := longHeaderInitialByte_parsed header.longHeaderType hlow hhigh
  generalize longHeaderInitialByte header.longHeaderType encoding.length = first at *
  rw [← hprotected] at hlen hsample
  have hform' : getHeaderForm (first ^^^ (m &&& LongHeader.kTypeBitsMask)) = .long := by
    rw [getHeaderForm, protected_and (by decide)]
    exact hform
  have htype' : parseLongHeaderType (first ^^^ (m &&& LongHeader.kTypeBitsMask)) =
      header.longHeaderType := by
    rw [parseLongHeaderType, protected_and (by decide)]
    exact htype
  refine ⟨⟨_, header, tokenBytes, lenBytes, protectedBytes, hform', htype', hretry, hversion, htoken,
    hlen, hsample⟩, rfl, rfl, first, header.invariant.encoded ++ (tokenBytes ++ lenBytes),
    hnumber hretry, ?_, rfl⟩
  rw [hheader, hbytes]
  simp only [List.cons_append, List.append_assoc]

/-- Wherever it stands in a datagram, a receiver that has the keys and restores the number gets the
header and the frames that were built. -/
theorem protectedPacket_opened {encrypt : Bytes → Bytes → UInt64 → Bytes} {cipher : Aead}
    (hencrypt : EncryptsFor encrypt overhead.toNat cipher) {headerCipher : PacketNumberCipher}
    (call : ParseCall) {expected : UInt64}
    (hciphers : call.codec.ciphers (longHeaderTypeToProtectionType header.longHeaderType) =
      some (some headerCipher, some cipher))
    (hconnId : header.longHeaderType = .initial → call.codec.nodeType = .server →
      kMinInitialDestinationConnIdLength ≤ header.invariant.dstConnId.size)
    (hexpected : call.ackStates.expectedNextPacketNum
      (longHeaderTypeToProtectionType header.longHeaderType) = .ok expected)
    (hnumber : decodePacketNumber (UInt64.ofNat encoding.result) encoding.length expected =
      header.packetSequenceNum) :
    let sealed := encrypt packet.body packet.header header.packetSequenceNum
    ∃ sent, encryptPacketHeader .long packet.header sealed headerCipher = some sent ∧
      ∀ (queue : BufQueue) (rest : Bytes), queue.Unchained → queue.bytes = sent ++ sealed ++ rest →
        ∃ queue', call.parsePacket queue = .ok (decodeFrames call.codec
          (.long { header with token := header.sentToken }) (some (.wrapBuffer packet.body)),
            queue') ∧ queue'.bytes = rest := by
  intro sealed
  have hsealed : sealed.length = packet.body.length + overhead.toNat := hencrypt.length _ _ _
  have hwidth := length_beBytes encoding.length encoding.result
  obtain ⟨-, hhigh⟩ := length_packetNumber hencoding
  set sample := (sealed.drop (kMaxPacketNumEncodingSize - encoding.length)).take sizeofSample
  set number := (beBytes encoding.length encoding.result).mapIdx
    fun i byte => byte ^^^ headerCipher.mask sample (i + 1) with hmasked
  have hlen : number.length = encoding.length := by rw [hmasked, List.length_mapIdx, hwidth]
  obtain ⟨p, rfl, hprotected, first, tail, hlength, hheader, hheaderBytes⟩ :=
    h.longPacket hretry hversion hencoding hsample (headerCipher.mask sample 0) (number ++ sealed)
      (by rw [List.length_append, hlen, hsealed, Nat.add_assoc])
  have hoffset : packet.header.length - encoding.length = tail.length + 1 := by
    rw [hheader, List.length_cons, List.length_append, hwidth]
    omega
  have hsent : encryptPacketHeader .long packet.header sealed headerCipher =
      some (p.headerBytes ++ number) := by
    unfold encryptPacketHeader
    rw [show packet.header.headD 0 = first by rw [hheader]; rfl, hlength]
    dsimp only
    rw [if_neg (by omega), hoffset, hheader, List.take_succ_cons, List.take_left, List.tail_cons,
      List.drop_succ_cons, List.drop_left, hheaderBytes]
    rfl
  refine ⟨_, hsent, fun queue rest hq hqueue => ?_⟩
  rw [List.append_assoc p.headerBytes, ← hprotected] at hqueue
  obtain ⟨data, queue', hsplit, hdata, hunchained, hrest, -⟩ := p.split_eq hconnId hq hqueue
  have hopen := p.openLongHeader_eq hunchained hdata (hlength.trans hwidth.symm)
    (by rw [hwidth]; exact Nat.add_sub_of_le hhigh) rfl hheaderBytes hprotected expected
  rw [hwidth, beNat_beBytes_of_lt (encodePacketNumber_lt hencoding), hnumber, ← hheader] at hopen
  refine ⟨queue', ?_, hrest⟩
  rw [ParseCall.parsePacket_of_long hqueue, parseLongHeaderPacket, hsplit, except_ok_bind]
  dsimp only
  rw [readLongHeaderPacket]
  dsimp only
  rw [show p.parsed.header.longHeaderType = p.header.longHeaderType from rfl, hciphers]
  dsimp only
  rw [hexpected, except_ok_bind, hopen, except_ok_bind, hencrypt.opens]
  rfl

end

/-- A cipher that only appends a tag of zeros, and masks of ones. -/
def taggingCall : ParseCall where
  codec := { (ParseCall.keyless .client).codec with
    initialHeaderCipher := some ⟨fun _ _ => 0xff⟩
    initialReadCipher := some ⟨fun sealed _ _ =>
      some (some (.wrapBuffer (sealed.take (sealed.length - 16))))⟩ }
  ackStates := ⟨some none, none, none⟩
  dstConnIdSize := 0
  kept := ⟨fun _ _ => rfl, fun h => by cases h⟩

/-- An Initial packet with four bytes of frames, in front of another byte. -/
theorem protectedPacket_opened_initial :
    let header : LongHeader := ⟨300, .initial, ⟨.quicV1, repeatedConnectionId 0, repeatedConnectionId 8⟩,
      [5, 6]⟩
    ∃ packet sent queue', InplaceQuicPacketBuilder.build [] 1200 (.long header) 7 16
        [.bytes [6, 0, 1, 9]] = .ok packet ∧
      taggingCall.parsePacket (datagram (sent ++ (packet.body ++ List.replicate 16 0) ++ [1])) =
        .ok (decodeFrames taggingCall.codec (.long header) (some (.wrapBuffer packet.body)), queue') ∧
      queue'.bytes = [1] := by
  have hbuild : ∃ packet, InplaceQuicPacketBuilder.build [] 1200 (.long ⟨300, .initial,
      ⟨.quicV1, repeatedConnectionId 0, repeatedConnectionId 8⟩, [5, 6]⟩) 7 16
        [.bytes [6, 0, 1, 9]] = .ok packet ∧ packet.body.length = 4 := ⟨_, rfl, rfl⟩
  obtain ⟨packet, hbuild, hbody⟩ := hbuild
  have hencrypt : EncryptsFor (fun body _ _ => body ++ List.replicate 16 0) 16
      ⟨fun sealed _ _ => some (some (.wrapBuffer (sealed.take (sealed.length - 16))))⟩ :=
    ⟨fun body _ _ => by simp, fun body _ _ => by simp⟩
  obtain ⟨sent, -, hopened⟩ := protectedPacket_opened (.inr ⟨_, _, hbuild⟩) (by decide) (by decide)
    (show encodePacketNumber 300 7 = .ok ⟨300, 2⟩ from rfl) (by rw [hbody]; decide) hencrypt
    taggingCall rfl (fun _ h => by cases h) (show _ = Except.ok 0 from rfl) (by decide)
  obtain ⟨queue', hparse, hrest⟩ := hopened (datagram _) [1] (unchained_datagram _) (bytes_datagram _)
  exact ⟨packet, sent, queue', hbuild, hparse, hrest⟩

end MasqueQuic
