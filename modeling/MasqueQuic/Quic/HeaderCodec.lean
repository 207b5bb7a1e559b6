/-
Packet headers, built and parsed.

The fields of a long header up to the length are one list of bytes for every type of packet; the parser
takes them back (`parseLongHeader_encoded`), whatever field of the right value follows for the length.
Both builders write such a field, in different widths, so that their headers are parsed alike.
-/

import MasqueQuic.Quic.PacketLayout
import MasqueQuic.Quic.GroupStreamCodec

namespace MasqueQuic

open HeaderReader

/-! ### Reading fields -/

theorem accepts_canAdvance {α : Type} {n : Nat} {e : Bytes} {a : α} {k : HeaderReader α}
    (hn : n ≤ e.length) (hk : Accepts k e a) : Accepts (do canAdvance n; k) e a := by
  intro t
  have hlong : n ≤ (e ++ t).length := by
    rw [List.length_append]
    omega
  rw [StateT.run_bind, show (canAdvance n).run (e ++ t) = .ok ((), e ++ t) from if_pos hlong,
    except_ok_bind]
  exact hk t

theorem accepts_headerPull {n : Nat} {data : Bytes} (h : data.length = n) :
    Accepts (HeaderReader.pull n) data ⟨data, h⟩ := by
  subst h
  exact (Reads.take _ data.length).accepts rfl

theorem accepts_readBE {w v : Nat} (h : v < 256 ^ w) : Accepts (readBE w) (beBytes w v) v := by
  have hread : Accepts (readBE w) (beBytes w v ++ []) (beNat (beBytes w v)) :=
    (accepts_headerPull (length_beBytes w v)).bind (.pure _)
  rw [List.append_nil, beNat_beBytes_of_lt h] at hread
  exact hread

theorem accepts_readConnectionId (id : BoundedConnectionId) :
    Accepts (readConnectionId id.size) id.bytes id := by
  unfold readConnectionId
  rw [dif_neg (show ¬ id.size > kMaxConnectionIdSize from Nat.not_lt.mpr id.size_le)]
  have hread : Accepts (do
      canAdvance id.size
      let bytes ← pull id.size
      return (⟨bytes.val, bytes.property.le.trans id.size_le⟩ : BoundedConnectionId))
      (id.bytes ++ []) id :=
    accepts_canAdvance (by rw [List.append_nil]; rfl)
      ((accepts_headerPull (show id.bytes.length = id.size from rfl)).bind (.pure _))
  rw [List.append_nil] at hread
  exact hread

/-- A connection ID behind its length. -/
theorem accepts_encodedConnectionId {α : Type} {e : Bytes} {a : α} (id : BoundedConnectionId)
    {k : BoundedConnectionId → HeaderReader α} (hk : Accepts (k id) e a) :
    Accepts (do
      canAdvance 1
      let connIdLen ← readBE 1
      let connId ← readConnectionId connIdLen
      k connId) (id.encoded ++ e) a := by
  have hlen : Accepts (readBE 1) [UInt8.ofNat id.size] id.size := by
    have hread := accepts_readBE (w := 1) (v := id.size) (Nat.lt_of_le_of_lt id.size_le (by decide))
    rwa [show beBytes 1 id.size = [UInt8.ofNat id.size] by rw [beBytes, beBytes, pow_zero, Nat.div_one]]
      at hread
  exact accepts_canAdvance (Nat.succ_le_succ (Nat.zero_le _))
    (hlen.bind ((accepts_readConnectionId id).bind hk))

/-- The fields of the invariant. -/
def LongHeaderInvariant.encoded (invariant : LongHeaderInvariant) : Bytes :=
  beBytes sizeofQuicVersionType invariant.version.code.toNat ++
    (invariant.dstConnId.encoded ++ invariant.srcConnId.encoded)

theorem accepts_parseLongHeaderInvariant (initialByte : UInt8) (invariant : LongHeaderInvariant) :
    Accepts (parseLongHeaderInvariant initialByte) invariant.encoded ⟨initialByte, invariant⟩ := by
  have hversion : Accepts (readBE sizeofQuicVersionType)
      (beBytes sizeofQuicVersionType invariant.version.code.toNat) invariant.version.code.toNat :=
    accepts_readBE invariant.version.code.toNat_lt
  have hcode : (⟨UInt32.ofNat invariant.version.code.toNat⟩ : QuicVersion) = invariant.version := by
    rw [UInt32.ofNat_toNat]
  have hread : Accepts (parseLongHeaderInvariant initialByte)
      (beBytes sizeofQuicVersionType invariant.version.code.toNat ++
        (invariant.dstConnId.encoded ++ (invariant.srcConnId.encoded ++ [])))
      ⟨initialByte, ⟨⟨UInt32.ofNat invariant.version.code.toNat⟩, invariant.srcConnId,
        invariant.dstConnId⟩⟩ :=
    accepts_canAdvance (by rw [List.length_append, length_beBytes]; exact Nat.le_add_right _ _)
      (hversion.bind (accepts_encodedConnectionId invariant.dstConnId
        (accepts_encodedConnectionId invariant.srcConnId (.pure _))))
  rw [List.append_nil, hcode] at hread
  exact hread

/-! ### Long headers -/

theorem length_packetNumber {packetNum largestAckedPacketNum : UInt64}
    {encoding : PacketNumEncodingResult}
    (h : encodePacketNumber packetNum largestAckedPacketNum = .ok encoding) :
    1 ≤ encoding.length ∧ encoding.length ≤ kMaxPacketNumEncodingSize := by
  have hpos : 1 ≤ (if findLastSet ((packetNum - largestAckedPacketNum) * 2) = 0 then 1
      else (findLastSet ((packetNum - largestAckedPacketNum) * 2) + 7) >>> 3) := by
    split
    · exact Nat.le_refl 1
    · rename_i hbits
      rw [Nat.shiftRight_eq_div_pow]
      omega
  unfold encodePacketNumber at h
  dsimp only at h
  generalize (if findLastSet ((packetNum - largestAckedPacketNum) * 2) = 0 then 1
    else (findLastSet ((packetNum - largestAckedPacketNum) * 2) + 7) >>> 3) = n at h hpos
  split at h
  · cases h
  · rename_i hle
    cases h
    exact ⟨hpos, Nat.le_of_not_lt hle⟩

/-- What the parsers make of the first byte. -/
theorem longHeaderInitialByte_parsed (type : LongHeaderType) {n : Nat} (hlow : 1 ≤ n)
    (hhigh : n ≤ kMaxPacketNumEncodingSize) :
    getHeaderForm (longHeaderInitialByte type n) = .long ∧
      parseLongHeaderType (longHeaderInitialByte type n) = type ∧
      (type ≠ .retry → parsePacketNumberLength (longHeaderInitialByte type n) = n) := by
  have hn : n = 1 ∨ n = 2 ∨ n = 3 ∨ n = 4 := by
    unfold kMaxPacketNumEncodingSize at hhigh
    omega
  rcases hn with rfl | rfl | rfl | rfl <;> cases type <;> decide

theorem shortHeaderInitialByte_parsed (protectionType : KeyPhase) {n : Nat} (hlow : 1 ≤ n)
    (hhigh : n ≤ kMaxPacketNumEncodingSize) :
    getHeaderForm (shortHeaderInitialByte protectionType n) = .short ∧
      shortHeaderInitialByte protectionType n &&& kFixedBitMask ≠ 0 ∧
      shortHeaderInitialByte protectionType n &&& ShortHeader.kReservedBitsMask = 0 ∧
      (if shortHeaderInitialByte protectionType n &&& ShortHeader.kKeyPhaseMask ≠ 0 then .one
        else .zero) = protectionType ∧
      parsePacketNumberLength (shortHeaderInitialByte protectionType n) = n := by
  have hn : n = 1 ∨ n = 2 ∨ n = 3 ∨ n = 4 := by
    unfold kMaxPacketNumEncodingSize at hhigh
    omega
  rcases hn with rfl | rfl | rfl | rfl <;> cases protectionType <;> decide

/-- The token as it is read back: only Initial and Retry packets have one. -/
def LongHeader.sentToken (header : LongHeader) : Bytes :=
  match header.longHeaderType with
  | .initial | .retry => header.token
  | _ => []

theorem liftEncoding_ok {α : Type} {x : Except QuicException α} {a : α}
    (h : liftEncoding x = .ok a) : x = .ok a := by
  cases x with
  | error e => cases h
  | ok b =>
    cases h
    rfl

theorem tokenHeaderLength_of_encodeToken {header : LongHeader} {tokenBytes : Bytes}
    (h : encodeToken header = .ok tokenBytes) : tokenHeaderLength header = .ok tokenBytes.length := by
  unfold encodeToken at h
  unfold tokenHeaderLength
  cases htype : header.longHeaderType with
  | initial =>
    rw [htype] at h
    dsimp only at h ⊢
    cases hlen : encodeQuicInteger header.token.length with
    | none =>
      rw [hlen] at h
      cases h
    | some lenBytes =>
      rw [hlen] at h
      cases h
      rw [WireField.getSize, integerSize_encode hlen, except_ok_bind, List.length_append]
      rfl
  | retry =>
    rw [htype] at h
    dsimp only at h ⊢
    split at h
    · cases h
    · cases h
      rfl
  | zeroRtt =>
    rw [htype] at h
    cases h
    rfl
  | handshake =>
    rw [htype] at h
    cases h
    rfl

theorem LongHeaderInvariant.length_encoded (invariant : LongHeaderInvariant) :
    invariant.encoded.length =
      sizeofQuicVersionType + 1 + invariant.srcConnId.size + 1 + invariant.dstConnId.size := by
  simp only [LongHeaderInvariant.encoded, BoundedConnectionId.encoded, BoundedConnectionId.size,
    List.length_append, List.length_cons, length_beBytes]
  omega

theorem encodeLongHeaderHelper_ok {header : LongHeader} {space space' : UInt32}
    {largestAckedPacketNum : UInt64} {encoding : PacketNumEncodingResult} {bytes : Bytes}
    (h : encodeLongHeaderHelper header space largestAckedPacketNum = .ok (encoding, bytes, space')) :
    encodePacketNumber header.packetSequenceNum largestAckedPacketNum = .ok encoding ∧
    ∃ tokenBytes, encodeToken header = .ok tokenBytes ∧
      bytes = longHeaderInitialByte header.longHeaderType encoding.length ::
        (header.invariant.encoded ++ tokenBytes) ∧
      space' = if space.toNat < bytes.length + (if header.longHeaderType = .retry then 0
          else kMaxPacketLenSize + encoding.length) then 0
        else space - UInt32.ofNat (bytes.length + (if header.longHeaderType = .retry then 0
          else kMaxPacketLenSize + encoding.length)) := by
  simp only [encodeLongHeaderHelper, except_bind_eq_ok] at h
  obtain ⟨encoding', hencoding, tokenLength, htokenLength, tokenBytes, htoken, hreturn⟩ := h
  cases hreturn
  rw [tokenHeaderLength_of_encodeToken htoken] at htokenLength
  cases htokenLength
  have hbytes : beBytes sizeofQuicVersionType header.invariant.version.code.toNat ++
      (header.invariant.dstConnId.encoded ++ (header.invariant.srcConnId.encoded ++ tokenBytes)) =
        header.invariant.encoded ++ tokenBytes := by
    simp only [LongHeaderInvariant.encoded, List.append_assoc]
  refine ⟨liftEncoding_ok hencoding, tokenBytes, htoken, by rw [hbytes], ?_⟩
  rw [hbytes, List.length_cons, List.length_append, header.invariant.length_encoded,
    show ∀ extra, 1 + sizeofQuicVersionType + 1 + header.invariant.srcConnId.size + 1 +
      header.invariant.dstConnId.size + tokenBytes.length + extra =
        sizeofQuicVersionType + 1 + header.invariant.srcConnId.size + 1 +
          header.invariant.dstConnId.size + tokenBytes.length + 1 + extra by intro extra; omega]

/-- The token field of an Initial packet is read back. -/
theorem accepts_parseInitialToken {lenBytes token : Bytes} (h : Varint token.length lenBytes) :
    Accepts parseInitialToken (lenBytes ++ token) token := by
  have hlen : Accepts HeaderReader.integer lenBytes (token.length, lenBytes.length) := by
    intro t
    change HeaderReader.integer (lenBytes ++ t) = _
    simp only [HeaderReader.integer, decodeQuicInteger_append h, List.drop_left]
  have hread : Accepts parseInitialToken (lenBytes ++ (token ++ [])) token :=
    hlen.bind (accepts_canAdvance (by rw [List.append_nil])
      ((accepts_headerPull (show token.length = token.length from rfl)).bind (.pure _)))
  rw [List.append_nil] at hread
  exact hread

section Length

variable {n : Nat} {lenBytes rest : Bytes}

theorem parsePacketLength_run {initialByte : UInt8} (hlen : Varint n lenBytes)
    (hn : n ≤ rest.length) (hnumber : parsePacketNumberLength initialByte ≤ rest.length) :
    (parsePacketLength initialByte).run (lenBytes ++ rest) =
      .ok (⟨n, lenBytes.length⟩, rest) := by
  have hinteger : HeaderReader.integer (lenBytes ++ rest) = .ok ((n, lenBytes.length), rest) := by
    simp only [HeaderReader.integer, decodeQuicInteger_append hlen, List.drop_left]
  have hadvance : ∀ k ≤ rest.length, (canAdvance k).run rest = .ok ((), rest) := fun k hk => if_pos hk
  have hsize : ¬ parsePacketNumberLength initialByte > kMaxPacketNumEncodingSize := by
    have hmask : (initialByte &&& kPacketNumLenMask).toNat ≤ 3 := by
      rw [UInt8.toNat_and]
      exact Nat.and_le_right
    unfold parsePacketNumberLength kMaxPacketNumEncodingSize
    omega
  unfold parsePacketLength
  rw [StateT.run_bind, show (HeaderReader.integer).run _ = _ from hinteger, except_ok_bind]
  dsimp only
  rw [StateT.run_bind, hadvance n hn, except_ok_bind]
  dsimp only
  rw [StateT.run_bind, hadvance _ hnumber, except_ok_bind, if_neg hsize]
  rfl

/-- The fields after the invariant, up to the packet number. -/
theorem parseLongHeaderVariants_encoded {header : LongHeader} {tokenBytes : Bytes}
    {initialByte : UInt8} {nodeType : QuicNodeType} (htoken : encodeToken header = .ok tokenBytes)
    (hretry : header.longHeaderType ≠ .retry)
    (hdst : header.longHeaderType = .initial → nodeType = .server →
      kMinInitialDestinationConnIdLength ≤ header.invariant.dstConnId.size)
    (hlen : Varint n lenBytes) (hn : n ≤ rest.length)
    (hnumber : parsePacketNumberLength initialByte ≤ rest.length) :
    (parseLongHeaderVariants header.longHeaderType ⟨initialByte, header.invariant⟩ nodeType).run
        (tokenBytes ++ (lenBytes ++ rest)) =
      .ok (⟨⟨0, header.longHeaderType, header.invariant, header.sentToken⟩, ⟨n, lenBytes.length⟩⟩,
        rest) := by
  have hlength := @parsePacketLength_run n lenBytes rest initialByte hlen hn hnumber
  unfold parseLongHeaderVariants LongHeader.sentToken
  unfold encodeToken at htoken
  cases htype : header.longHeaderType with
  | retry => exact absurd htype hretry
  | initial =>
    rw [htype] at htoken
    dsimp only at htoken ⊢
    rw [if_neg fun h => Nat.not_lt.mpr (hdst htype h.2.1) h.2.2, if_pos rfl]
    cases hencode : encodeQuicInteger header.token.length with
    | none =>
      rw [hencode] at htoken
      cases htoken
    | some tokenLenBytes =>
      rw [hencode] at htoken
      cases htoken
      rw [StateT.run_bind,
        accepts_parseInitialToken (encodeQuicInteger_varint hencode) (lenBytes ++ rest),
        except_ok_bind]
      dsimp only
      rw [StateT.run_bind, hlength, except_ok_bind]
      rfl
  | zeroRtt =>
    rw [htype] at htoken
    cases htoken
    rw [List.nil_append]
    simp only [reduceCtorEq, false_and, if_false, pure_bind]
    rw [StateT.run_bind, hlength, except_ok_bind]
    rfl
  | handshake =>
    rw [htype] at htoken
    cases htoken
    rw [List.nil_append]
    simp only [reduceCtorEq, false_and, if_false, pure_bind]
    rw [StateT.run_bind, hlength, except_ok_bind]
    rfl

end Length

/-! ### Whole headers -/

section Whole

variable {space space' : UInt32} {largestAckedPacketNum : UInt64}
  {encoding : PacketNumEncodingResult} {bytes rest : Bytes}

/-- The bytes of a long header are parsed up to the packet number. -/
theorem parseLongHeader_encoded {header : LongHeader} {n : Nat} {lenBytes : Bytes}
    (h : encodeLongHeaderHelper header space largestAckedPacketNum = .ok (encoding, bytes, space'))
    (hretry : header.longHeaderType ≠ .retry)
    (hversion : header.invariant.version ≠ .versionNegotiation)
    (hdst : header.longHeaderType = .initial →
      kMinInitialDestinationConnIdLength ≤ header.invariant.dstConnId.size)
    (hlen : Varint n lenBytes) (hn : n ≤ rest.length) (hnumber : encoding.length ≤ rest.length) :
    ∃ first tail, bytes = first :: tail ∧ (parseLongHeader first).run (tail ++ (lenBytes ++ rest)) =
      .ok (.parsed ⟨⟨0, header.longHeaderType, header.invariant, header.sentToken⟩,
        ⟨n, lenBytes.length⟩⟩, rest) := by
  obtain ⟨hencoding, tokenBytes, htoken, rfl, -⟩ := encodeLongHeaderHelper_ok h
  obtain ⟨hlow, hhigh⟩ := length_packetNumber hencoding
  obtain ⟨hform, htype, hnum⟩ := longHeaderInitialByte_parsed header.longHeaderType hlow hhigh
  refine ⟨_, _, rfl, ?_⟩
  change parseLongHeader _ _ = _
  unfold parseLongHeader
  rw [if_neg (fun hne => hne hform), List.append_assoc,
    accepts_parseLongHeaderInvariant _ _ (tokenBytes ++ (lenBytes ++ rest))]
  dsimp only
  rw [if_neg hversion, htype, parseLongHeaderVariants_encoded htoken hretry
    (fun hinitial _ => hdst hinitial) hlen hn (by rwa [hnum hretry])]

theorem parseShortHeader_encoded {header : ShortHeader}
    (h : encodeShortHeaderHelper header space largestAckedPacketNum =
      .ok (some encoding, bytes, space')) :
    encodePacketNumber header.packetSequenceNum largestAckedPacketNum = .ok encoding ∧
      ∃ first tail, bytes = first :: tail ∧
        (parseShortHeader first header.connectionId.size).run (tail ++ rest) =
          .ok ({ header with packetSequenceNum := 0 }, rest) := by
  simp only [encodeShortHeaderHelper, except_bind_eq_ok] at h
  obtain ⟨encoding', hencoding, hreturn⟩ := h
  split at hreturn
  · cases hreturn
  · cases hreturn
    have hencoding := liftEncoding_ok hencoding
    obtain ⟨hlow, hhigh⟩ := length_packetNumber hencoding
    obtain ⟨hform, hfixed, hreserved, hphase, -⟩ :=
      shortHeaderInitialByte_parsed header.protectionType hlow hhigh
    refine ⟨hencoding, _, _, rfl, ?_⟩
    change parseShortHeader _ _ _ = _
    unfold parseShortHeader parseShortHeaderInvariants
    rw [if_neg (fun hne => hne hform), if_neg hfixed, if_neg (fun hne => hne hreserved),
      if_neg (fun hne => hne hform), accepts_readConnectionId header.connectionId rest]
    dsimp only
    rw [hphase]

/-- A Retry packet: the token is what is left without the tag. -/
theorem parseLongHeader_retry {header : LongHeader} {tag : Bytes}
    (h : encodeLongHeaderHelper header space largestAckedPacketNum = .ok (encoding, bytes, space'))
    (hretry : header.longHeaderType = .retry)
    (hversion : header.invariant.version ≠ .versionNegotiation)
    (htag : tag.length = kRetryIntegrityTagLen) :
    ∃ first tail, bytes = first :: tail ∧ (parseLongHeader first).run (tail ++ tag) =
      .ok (.parsed ⟨⟨0, .retry, header.invariant, header.token⟩, ⟨0, 0⟩⟩, tag) := by
  obtain ⟨hencoding, tokenBytes, htoken, rfl, -⟩ := encodeLongHeaderHelper_ok h
  obtain ⟨hlow, hhigh⟩ := length_packetNumber hencoding
  obtain ⟨hform, htype, -⟩ := longHeaderInitialByte_parsed header.longHeaderType hlow hhigh
  rw [encodeToken, hretry] at htoken
  dsimp only at htoken
  split at htoken
  · cases htoken
  rename_i hnonempty
  cases htoken
  have hpos : 0 < header.token.length := by
    rw [List.length_pos_iff]
    exact fun hnil => hnonempty (List.isEmpty_iff.mpr hnil)
  refine ⟨_, _, rfl, ?_⟩
  change parseLongHeader _ _ = _
  unfold parseLongHeader
  rw [if_neg (fun hne => hne hform), List.append_assoc,
    accepts_parseLongHeaderInvariant _ _ (header.token ++ tag)]
  dsimp only
  rw [if_neg hversion, htype, hretry]
  have hlength : (header.token ++ tag).length - kRetryIntegrityTagLen = header.token.length := by
    rw [List.length_append, htag, Nat.add_sub_cancel]
  have hvariants : (parseLongHeaderVariants .retry
      ⟨longHeaderInitialByte .retry encoding.length, header.invariant⟩ .server).run
        (header.token ++ tag) =
      .ok (⟨⟨0, .retry, header.invariant, header.token⟩, ⟨0, 0⟩⟩, tag) := by
    unfold parseLongHeaderVariants
    dsimp only
    rw [StateT.run_bind, show totalLength.run (header.token ++ tag) =
      .ok ((header.token ++ tag).length, header.token ++ tag) from rfl, except_ok_bind]
    dsimp only
    rw [if_neg (by rw [List.length_append, htag]; omega), StateT.run_bind, hlength,
      accepts_headerPull rfl tag, except_ok_bind]
    rfl
  rw [hvariants]

end Whole

/-! ### Version Negotiation -/

theorem writtenVersions_eq (remaining : Nat) (versions : List QuicVersion) :
    writtenVersions remaining versions = versions.take (remaining / sizeofQuicVersionType) := by
  induction versions generalizing remaining with
  | nil => rw [List.take_nil]; rfl
  | cons version versions ih =>
    unfold writtenVersions
    by_cases hshort : remaining < sizeofQuicVersionType
    · rw [if_pos hshort, Nat.div_eq_of_lt hshort, List.take_zero]
    · have hpos : 0 < sizeofQuicVersionType := by decide
      rw [if_neg hshort, ih, Nat.div_eq_sub_div hpos (Nat.le_of_not_lt hshort),
        List.take_succ_cons]

theorem length_encodeVersions (versions : List QuicVersion) :
    (encodeVersions versions).length = sizeofQuicVersionType * versions.length := by
  induction versions with
  | nil => rfl
  | cons version versions ih =>
    unfold encodeVersions at ih ⊢
    rw [List.flatMap_cons, List.length_append, length_beBytes, ih, List.length_cons,
      Nat.mul_succ, Nat.add_comm]

theorem decodeVersions_encodeVersions (versions : List QuicVersion) :
    decodeVersions (encodeVersions versions) = versions := by
  induction versions with
  | nil => rfl
  | cons version versions ih =>
    have hvalue : beNat (beBytes sizeofQuicVersionType version.code.toNat) = version.code.toNat :=
      beNat_beBytes_of_lt version.code.toNat_lt
    unfold encodeVersions at ih ⊢
    rw [List.flatMap_cons]
    simp only [beBytes, sizeofQuicVersionType] at hvalue ⊢
    simp only [List.cons_append, List.nil_append]
    rw [decodeVersions, hvalue, UInt32.ofNat_toNat]
    exact congrArg _ ih

/-- The packet that is parsed is the one that was built: the versions that fit. -/
theorem tryParsingVersionNegotiation_built (src dst : BoundedConnectionId)
    {versions : List QuicVersion} (hne : versions ≠ []) :
    ∃ count, 0 < count ∧ tryParsingVersionNegotiation (buildVersionNegotiationPacket src dst versions).2 =
      some ⟨kHeaderFormMask, src, dst, versions.take count⟩ ∧
      (buildVersionNegotiationPacket src dst versions).1 =
        ⟨kHeaderFormMask, src, dst, versions.take count⟩ := by
  have hsrc : src.size ≤ 20 := src.size_le
  have hdst : dst.size ≤ 20 := dst.size_le
  generalize hcount : (kDefaultUDPSendPacketLen -
    (1 + sizeofQuicVersionType + 1 + dst.size + 1 + src.size)) / sizeofQuicVersionType = count
  have hpos : 0 < count := by
    unfold kDefaultUDPSendPacketLen sizeofQuicVersionType at hcount
    omega
  have hwritten : (versions.take count).length ≠ 0 := by
    have hlen := List.length_pos_iff.mpr hne
    rw [List.length_take]
    omega
  have hinvariant := accepts_parseLongHeaderInvariant kHeaderFormMask ⟨.versionNegotiation, src, dst⟩
  have hlen := length_encodeVersions (versions.take count)
  refine ⟨count, hpos, ?_, ?_⟩
  · unfold buildVersionNegotiationPacket
    dsimp only
    rw [writtenVersions_eq, hcount]
    unfold tryParsingVersionNegotiation
    dsimp only
    rw [if_neg (by decide)]
    have hrun := hinvariant (encodeVersions (versions.take count))
    simp only [LongHeaderInvariant.encoded, List.append_assoc] at hrun
    rw [hrun]
    dsimp only
    rw [if_neg (by simp)]
    unfold decodeVersionNegotiation
    rw [hlen, if_neg (by unfold sizeofQuicVersionType; omega), decodeVersions_encodeVersions]
  · unfold buildVersionNegotiationPacket
    dsimp only
    rw [writtenVersions_eq, hcount]

/-! ### What the builders make of a header -/

/-- The header of a packet that was built: the encoded header, then the length in some width for a long
header that has one, then the packet number. A Retry packet has neither. -/
def HeaderBuilt (limit : UInt32) (largestAckedPacketNum : UInt64) (overhead : UInt8)
    (packet : BuiltPacket) : PacketHeader → Prop
  | .long header => ∃ encoding bytes space,
      encodeLongHeaderHelper header (limit - UInt32.ofNat overhead.toNat) largestAckedPacketNum =
        .ok (encoding, bytes, space) ∧
      if header.longHeaderType = .retry then packet.header = bytes
      else ∃ lenBytes,
        Varint (encoding.length + packet.body.length + overhead.toNat) lenBytes ∧
        packet.header = bytes ++ (lenBytes ++ beBytes encoding.length encoding.result)
  | .short header => ∃ encoding bytes space,
      encodeShortHeaderHelper header (limit - UInt32.ofNat overhead.toNat) largestAckedPacketNum =
        .ok (some encoding, bytes, space) ∧
      packet.header = bytes ++ beBytes encoding.length encoding.result

namespace RegularQuicPacketBuilder

variable {b b' : RegularQuicPacketBuilder}

/-- Writing a frame leaves the header alone. -/
structure SameHeader (b b' : RegularQuicPacketBuilder) : Prop where
  header : b'.header = b.header
  packetHeader : b'.packetHeader = b.packetHeader
  encoding : b'.packetNumberEncoding = b.packetNumberEncoding
  overhead : b'.cipherOverhead = b.cipherOverhead

theorem sameHeader_write {w : BuilderWrite} (h : b.write w = .ok b') : SameHeader b b' := by
  cases w with
  | bytes data =>
    cases h
    exact ⟨rfl, rfl, rfl, rfl⟩
  | insert buf limit =>
    unfold RegularQuicPacketBuilder.write at h
    dsimp only at h
    split at h
    · cases h
    split at h
    · cases h
    cases h
    exact ⟨rfl, rfl, rfl, rfl⟩
  | appendFrame =>
    cases h
    exact ⟨rfl, rfl, rfl, rfl⟩

theorem sameHeader_writes {writes : List BuilderWrite} (h : writes.foldlM write b = .ok b') :
    SameHeader b b' := by
  apply @run_invariant _ _ _ write (SameHeader b) _ _ _ _ ⟨rfl, rfl, rfl, rfl⟩ h
  intro s w s' hs hstep
  have hsame := sameHeader_write hstep
  exact ⟨hsame.header.trans hs.header, hsame.packetHeader.trans hs.packetHeader,
    hsame.encoding.trans hs.encoding, hsame.overhead.trans hs.overhead⟩

theorem headerBuilt {limit : UInt32} {packetHeader : PacketHeader} {largestAckedPacketNum : UInt64}
    {overhead : UInt8} {writes : List BuilderWrite} {packet : BuiltPacket}
    (h : build limit packetHeader largestAckedPacketNum overhead writes = .ok packet) :
    HeaderBuilt limit largestAckedPacketNum overhead packet packetHeader := by
  simp only [build, except_bind_eq_ok] at h
  obtain ⟨started, hstart, written, hwrite, hbuild⟩ := h
  have hsame := sameHeader_writes hwrite
  unfold start encodePacketHeader at hstart
  rw [if_neg (by simp [accountForCipherOverhead, new])] at hstart
  unfold buildPacket at hbuild
  rw [hsame.packetHeader, hsame.encoding, hsame.header, hsame.overhead] at hbuild
  cases packetHeader with
  | long header =>
    simp only [accountForCipherOverhead, new, except_bind_eq_ok] at hstart
    obtain ⟨⟨encoding, bytes, space⟩, hencode, hreturn⟩ := hstart
    cases hreturn
    dsimp only at hbuild
    refine ⟨encoding, bytes, space, hencode, ?_⟩
    by_cases hretry : header.longHeaderType = .retry
    · rw [if_pos hretry] at hbuild ⊢
      cases hbuild
      rfl
    rw [if_neg hretry] at hbuild ⊢
    split at hbuild
    · cases hbuild
    · rename_i lenBytes hlen
      cases hbuild
      refine ⟨lenBytes, encodeQuicInteger_varint hlen, ?_⟩
      rw [List.nil_append, List.append_assoc]
  | short header =>
    simp only [accountForCipherOverhead, new, except_bind_eq_ok] at hstart
    obtain ⟨⟨encoding, bytes, space⟩, hencode, hreturn⟩ := hstart
    cases encoding with
    | none =>
      cases hreturn
      cases hbuild
    | some encoding =>
      cases hreturn
      cases hbuild
      exact ⟨encoding, bytes, space, hencode, rfl⟩

end RegularQuicPacketBuilder

theorem InplaceQuicPacketBuilder.headerBuilt {before : Bytes} {limit : UInt32}
    {packetHeader : PacketHeader} {largestAckedPacketNum : UInt64} {overhead : UInt8}
    {writes : List BuilderWrite} {packet : BuiltPacket}
    (h : build before limit packetHeader largestAckedPacketNum overhead writes = .ok packet) :
    HeaderBuilt limit largestAckedPacketNum overhead packet packetHeader := by
  simp only [build, except_bind_eq_ok] at h
  obtain ⟨started, hstart, written, hwrite, hbuild⟩ := h
  cases packetHeader with
  | long header =>
    obtain ⟨encoding, bytes, space, hencode, hplan, -⟩ := start_long hstart
    have hwritten := hplan.writes hwrite
    obtain ⟨padded, k, hpad, hpadded⟩ := padBody_of_buildPacket hwritten hbuild
    refine ⟨encoding, bytes, space, hencode, ?_⟩
    by_cases hretry : header.longHeaderType = .retry
    · have hheader : ∀ header', (longPlan before bytes header encoding overhead).packetHeader =
          .long header' → header'.longHeaderType = .retry := by
        intro header' hlong
        cases hlong
        exact hretry
      rw [buildPacket_noRoom hwritten (if_pos hretry) hheader hpad hpadded] at hbuild
      cases hbuild
      rw [if_pos hretry]
      rfl
    · rw [buildPacket_long hwritten hretry hpad hpadded, except_bind_eq_ok] at hbuild
      obtain ⟨lenBytes, hlen, hreturn⟩ := hbuild
      cases hreturn
      rw [if_neg hretry]
      exact ⟨lenBytes, (encodePacketLength_varint hlen).2.1, rfl⟩
  | short header =>
    obtain ⟨encoding, hencoding⟩ := encoding_of_buildPacket hwrite hbuild
    obtain ⟨bytes, space, hencode, hplan, -⟩ := start_short hstart hencoding
    have hwritten := hplan.writes hwrite
    obtain ⟨padded, k, hpad, hpadded⟩ := padBody_of_buildPacket hwritten hbuild
    have hheader : ∀ header', (shortPlan before bytes header encoding overhead).packetHeader =
        .long header' → header'.longHeaderType = .retry := by
      intro header' hlong
      cases hlong
    rw [buildPacket_noRoom hwritten rfl hheader hpad hpadded] at hbuild
    cases hbuild
    exact ⟨encoding, bytes, space, hencode, rfl⟩

/-! ### The round trip -/

/-- The packet was built for this header, by either builder and with any frames. -/
def BuiltFor (limit : UInt32) (packetHeader : PacketHeader) (largestAckedPacketNum : UInt64)
    (overhead : UInt8) (packet : BuiltPacket) : Prop :=
  (∃ writes, RegularQuicPacketBuilder.build limit packetHeader largestAckedPacketNum overhead writes =
    .ok packet) ∨
  ∃ before writes, InplaceQuicPacketBuilder.build before limit packetHeader largestAckedPacketNum
    overhead writes = .ok packet

theorem BuiltFor.headerBuilt {limit : UInt32} {packetHeader : PacketHeader}
    {largestAckedPacketNum : UInt64} {overhead : UInt8} {packet : BuiltPacket}
    (h : BuiltFor limit packetHeader largestAckedPacketNum overhead packet) :
    HeaderBuilt limit largestAckedPacketNum overhead packet packetHeader := by
  rcases h with ⟨writes, h⟩ | ⟨before, writes, h⟩
  · exact RegularQuicPacketBuilder.headerBuilt h
  · exact InplaceQuicPacketBuilder.headerBuilt h

/-- Long headers: the parser stops at the packet number, behind which are the sealed body and what
follows in the datagram. -/
def LongHeaderReadsBack (header : LongHeader) (largestAckedPacketNum : UInt64) (overhead : UInt8)
    (packet : BuiltPacket) : Prop :=
  ∀ sealed rest : Bytes, sealed.length = packet.body.length + overhead.toNat →
    ∃ encoding first tail width,
      encodePacketNumber header.packetSequenceNum largestAckedPacketNum = .ok encoding ∧
      packet.header = first :: (tail ++ beBytes encoding.length encoding.result) ∧
      (parseLongHeader first).run
          (tail ++ (beBytes encoding.length encoding.result ++ sealed ++ rest)) =
        .ok (.parsed ⟨⟨0, header.longHeaderType, header.invariant, header.sentToken⟩,
            ⟨encoding.length + sealed.length, width⟩⟩,
          beBytes encoding.length encoding.result ++ sealed ++ rest)

theorem longHeaderReadsBack {limit : UInt32} {header : LongHeader} {largestAckedPacketNum : UInt64}
    {overhead : UInt8} {packet : BuiltPacket}
    (h : BuiltFor limit (.long header) largestAckedPacketNum overhead packet)
    (hretry : header.longHeaderType ≠ .retry)
    (hversion : header.invariant.version ≠ .versionNegotiation)
    (hdst : header.longHeaderType = .initial →
      kMinInitialDestinationConnIdLength ≤ header.invariant.dstConnId.size) :
    LongHeaderReadsBack header largestAckedPacketNum overhead packet := by
  intro sealed rest hsealed
  obtain ⟨encoding, bytes, space, hencode, hbuilt⟩ := h.headerBuilt
  rw [if_neg hretry] at hbuilt
  obtain ⟨lenBytes, hlen, hheader⟩ := hbuilt
  have hpnlen := length_beBytes encoding.length encoding.result
  have htail : (beBytes encoding.length encoding.result ++ sealed ++ rest).length =
      encoding.length + sealed.length + rest.length := by
    rw [List.length_append, List.length_append, hpnlen]
  obtain ⟨first, tail, rfl, hparse⟩ := @parseLongHeader_encoded _ _ _ _ _
    (beBytes encoding.length encoding.result ++ sealed ++ rest) _ _ _ hencode hretry hversion hdst
    hlen (by rw [htail]; omega) (by rw [htail]; omega)
  refine ⟨encoding, first, tail ++ lenBytes, lenBytes.length, (encodeLongHeaderHelper_ok hencode).1,
    ?_, ?_⟩
  · rw [hheader, List.cons_append, List.append_assoc]
  · rw [List.append_assoc, hparse, hsealed, Nat.add_assoc]

/-- Short headers: the parser stops at the packet number. -/
def ShortHeaderReadsBack (header : ShortHeader) (largestAckedPacketNum : UInt64)
    (packet : BuiltPacket) : Prop :=
  ∀ rest : Bytes, ∃ encoding first tail,
    encodePacketNumber header.packetSequenceNum largestAckedPacketNum = .ok encoding ∧
    packet.header = first :: (tail ++ beBytes encoding.length encoding.result) ∧
    (parseShortHeader first header.connectionId.size).run
        (tail ++ (beBytes encoding.length encoding.result ++ rest)) =
      .ok ({ header with packetSequenceNum := 0 }, beBytes encoding.length encoding.result ++ rest)

theorem shortHeaderReadsBack {limit : UInt32} {header : ShortHeader} {largestAckedPacketNum : UInt64}
    {overhead : UInt8} {packet : BuiltPacket}
    (h : BuiltFor limit (.short header) largestAckedPacketNum overhead packet) :
    ShortHeaderReadsBack header largestAckedPacketNum packet := by
  intro rest
  obtain ⟨encoding, bytes, space, hencode, hheader⟩ := h.headerBuilt
  obtain ⟨hencoding, first, tail, rfl, hparse⟩ := parseShortHeader_encoded hencode
  exact ⟨encoding, first, tail, hencoding, hheader, hparse⟩

/-- The bytes of a Retry packet up to its tag: the token is what is in front of the tag. -/
def RetryReadsBack (invariant : LongHeaderInvariant) (token bytes : Bytes) : Prop :=
  ∀ tag : Bytes, tag.length = kRetryIntegrityTagLen → ∃ first tail, bytes = first :: tail ∧
    (parseLongHeader first).run (tail ++ tag) =
      .ok (.parsed ⟨⟨0, .retry, invariant, token⟩, ⟨0, 0⟩⟩, tag)

theorem retryReadsBack {limit : UInt32} {header : LongHeader} {largestAckedPacketNum : UInt64}
    {overhead : UInt8} {packet : BuiltPacket}
    (h : BuiltFor limit (.long header) largestAckedPacketNum overhead packet)
    (hretry : header.longHeaderType = .retry)
    (hversion : header.invariant.version ≠ .versionNegotiation) :
    RetryReadsBack header.invariant header.token packet.header := by
  intro tag htag
  obtain ⟨encoding, bytes, space, hencode, hbuilt⟩ := h.headerBuilt
  rw [if_pos hretry] at hbuilt
  rw [hbuilt]
  exact parseLongHeader_retry hencode hretry hversion htag

/-- A Retry packet is sent with its tag. -/
theorem buildRetryPacket_readsBack {src dst : BoundedConnectionId} {version : QuicVersion}
    {token tag packet : Bytes} (h : buildRetryPacket src dst version token tag = .ok (some packet))
    (hversion : version ≠ .versionNegotiation) :
    ∃ bytes, packet = bytes ++ tag ∧ RetryReadsBack ⟨version, src, dst⟩ token bytes := by
  simp only [buildRetryPacket, writeRetryPacket, except_bind_eq_ok] at h
  obtain ⟨⟨written, space⟩, ⟨⟨encoding, bytes, left⟩, hencode, hwritten⟩, hreturn⟩ := h
  dsimp only at hwritten hreturn
  split at hwritten
  · cases hwritten
    cases hreturn
  · cases hwritten
    split at hreturn
    · cases hreturn
    · cases hreturn
      exact ⟨bytes, rfl, fun tag' htag => parseLongHeader_retry hencode rfl hversion htag⟩

/-- Headers are parsed into what was built. Only Initial and Retry packets carry their token; a
version of zero makes the packet a Version Negotiation packet, which has to list a version; and the
parser takes every Initial packet for one that a server has received. -/
theorem packetHeader_roundTrip :
    (∀ limit header largestAckedPacketNum overhead packet,
      BuiltFor limit (.long header) largestAckedPacketNum overhead packet →
      header.invariant.version ≠ .versionNegotiation →
      (header.longHeaderType = .retry →
        RetryReadsBack header.invariant header.token packet.header) ∧
      (header.longHeaderType ≠ .retry →
        (header.longHeaderType = .initial →
          kMinInitialDestinationConnIdLength ≤ header.invariant.dstConnId.size) →
        LongHeaderReadsBack header largestAckedPacketNum overhead packet)) ∧
    (∀ limit header largestAckedPacketNum overhead packet,
      BuiltFor limit (.short header) largestAckedPacketNum overhead packet →
      ShortHeaderReadsBack header largestAckedPacketNum packet) ∧
    (∀ src dst versions, versions ≠ [] → ∃ count, 0 < count ∧
      (buildVersionNegotiationPacket src dst versions).1 =
        ⟨kHeaderFormMask, src, dst, versions.take count⟩ ∧
      tryParsingVersionNegotiation (buildVersionNegotiationPacket src dst versions).2 =
        some (buildVersionNegotiationPacket src dst versions).1) ∧
    ∀ src dst version token tag packet,
      buildRetryPacket src dst version token tag = .ok (some packet) →
      version ≠ .versionNegotiation →
      ∃ bytes, packet = bytes ++ tag ∧ RetryReadsBack ⟨version, src, dst⟩ token bytes := by
  refine ⟨?long, ?short, ?versions, ?retry⟩
  case long =>
    intro limit header largestAckedPacketNum overhead packet hbuilt hversion
    constructor
    · intro hretry
      exact retryReadsBack hbuilt hretry hversion
    · intro hretry hdst
      exact longHeaderReadsBack hbuilt hretry hversion hdst
  case short =>
    intro limit header largestAckedPacketNum overhead packet hbuilt
    exact shortHeaderReadsBack hbuilt
  case versions =>
    intro src dst versions hne
    obtain ⟨count, hcount, hparse, hwritten⟩ := tryParsingVersionNegotiation_built src dst hne
    exact ⟨count, hcount, hwritten, by rw [hparse, hwritten]⟩
  case retry =>
    intro src dst version token tag packet hbuilt hversion
    exact buildRetryPacket_readsBack hbuilt hversion

/-- A connection ID of `n` equal bytes. -/
def repeatedConnectionId (n : Fin 21) : BoundedConnectionId :=
  ⟨List.replicate n 7, by rw [List.length_replicate]; exact Nat.le_of_lt_succ n.isLt⟩

theorem packetHeader_roundTrip_built :
    (∃ packet, InplaceQuicPacketBuilder.build [1, 2] 1200 (.long ⟨300, .initial,
        ⟨.quicV1, repeatedConnectionId 0, repeatedConnectionId 8⟩, [5, 6]⟩) 7 16
        [.bytes [6, 0, 1, 9], .appendFrame] = .ok packet ∧
      LongHeaderReadsBack ⟨300, .initial, ⟨.quicV1, repeatedConnectionId 0, repeatedConnectionId 8⟩,
        [5, 6]⟩ 7 16 packet) ∧
    (∃ packet, RegularQuicPacketBuilder.build 1200 (.short ⟨70000, .one, repeatedConnectionId 20⟩) 3 16
        [.bytes [1], .appendFrame] = .ok packet ∧
      ShortHeaderReadsBack ⟨70000, .one, repeatedConnectionId 20⟩ 3 packet) ∧
    (∃ count, 0 < count ∧
      (buildVersionNegotiationPacket (repeatedConnectionId 3) (repeatedConnectionId 4)
        [.quicV1, .mvfst]).1 =
        ⟨kHeaderFormMask, repeatedConnectionId 3, repeatedConnectionId 4,
          [QuicVersion.quicV1, .mvfst].take count⟩ ∧
      tryParsingVersionNegotiation (buildVersionNegotiationPacket (repeatedConnectionId 3)
          (repeatedConnectionId 4) [.quicV1, .mvfst]).2 =
        some (buildVersionNegotiationPacket (repeatedConnectionId 3) (repeatedConnectionId 4)
          [.quicV1, .mvfst]).1) ∧
    ∃ packet bytes,
      buildRetryPacket (repeatedConnectionId 2) (repeatedConnectionId 5) .quicV1 [9, 8, 7]
        (List.replicate 16 4) = .ok (some packet) ∧ packet = bytes ++ List.replicate 16 4 ∧
      RetryReadsBack ⟨.quicV1, repeatedConnectionId 2, repeatedConnectionId 5⟩ [9, 8, 7] bytes := by
  obtain ⟨hlong, hshort, hversions, hretry⟩ := packetHeader_roundTrip
  refine ⟨?_, ?_, hversions _ _ _ (List.cons_ne_nil _ _), ?_⟩
  · have hbuild : ∃ packet, InplaceQuicPacketBuilder.build [1, 2] 1200 (.long ⟨300, .initial,
        ⟨.quicV1, repeatedConnectionId 0, repeatedConnectionId 8⟩, [5, 6]⟩) 7 16
        [.bytes [6, 0, 1, 9], .appendFrame] = .ok packet := ⟨_, rfl⟩
    obtain ⟨packet, hbuild⟩ := hbuild
    exact ⟨packet, hbuild, (hlong _ _ _ _ _ (.inr ⟨_, _, hbuild⟩) (by decide)).2 (by decide)
      (by decide)⟩
  · have hbuild : ∃ packet, RegularQuicPacketBuilder.build 1200
        (.short ⟨70000, .one, repeatedConnectionId 20⟩) 3 16 [.bytes [1], .appendFrame] =
          .ok packet := ⟨_, rfl⟩
    obtain ⟨packet, hbuild⟩ := hbuild
    exact ⟨packet, hbuild, hshort _ _ _ _ _ (.inl ⟨_, hbuild⟩)⟩
  · have hbuild : ∃ packet, buildRetryPacket (repeatedConnectionId 2) (repeatedConnectionId 5) .quicV1
        [9, 8, 7] (List.replicate 16 4) = .ok (some packet) := ⟨_, rfl⟩
    obtain ⟨packet, hbuild⟩ := hbuild
    obtain ⟨bytes, hpacket, hreads⟩ := hretry _ _ _ _ _ _ hbuild (by decide)
    exact ⟨packet, bytes, hbuild, hpacket, hreads⟩

/-- The exceptions: an empty version list, a version of zero, a token of a Handshake packet, and an
Initial packet of a server with a short connection ID. -/
theorem packetHeader_exceptions :
    tryParsingVersionNegotiation (buildVersionNegotiationPacket (repeatedConnectionId 8)
      (repeatedConnectionId 8) []).2 = none ∧
    (∃ packet, RegularQuicPacketBuilder.build 1200 (.long ⟨5, .initial,
        ⟨.versionNegotiation, repeatedConnectionId 8, repeatedConnectionId 8⟩, []⟩) 0 16
        [.bytes [1], .appendFrame] = .ok packet ∧
      ∃ first tail rest, packet.header = first :: tail ∧
        (parseLongHeader first).run (tail ++ packet.body ++ List.replicate 16 0) =
          .ok (.versionNegotiation, rest)) ∧
    (∃ packet, RegularQuicPacketBuilder.build 1200 (.long ⟨5, .handshake,
        ⟨.quicV1, repeatedConnectionId 8, repeatedConnectionId 8⟩, [1, 2]⟩) 0 16
        [.bytes [1], .appendFrame] = .ok packet ∧
      ∃ first tail length rest, packet.header = first :: tail ∧
        (parseLongHeader first).run (tail ++ packet.body ++ List.replicate 16 0) =
          .ok (.parsed ⟨⟨0, .handshake,
            ⟨.quicV1, repeatedConnectionId 8, repeatedConnectionId 8⟩, []⟩, length⟩, rest)) ∧
    ∃ packet, RegularQuicPacketBuilder.build 1200 (.long ⟨5, .initial,
        ⟨.quicV1, repeatedConnectionId 8, repeatedConnectionId 4⟩, []⟩) 0 16
        [.bytes [1], .appendFrame] = .ok packet ∧
      ∃ first tail, packet.header = first :: tail ∧
        (parseLongHeader first).run (tail ++ packet.body ++ List.replicate 16 0) =
          .error .frameEncodingError := by
  refine ⟨by decide +kernel, ⟨_, rfl, _, _, _, rfl, rfl⟩, ⟨_, rfl, _, _, _, _, rfl, rfl⟩,
    ⟨_, rfl, _, _, rfl, rfl⟩⟩

end MasqueQuic
