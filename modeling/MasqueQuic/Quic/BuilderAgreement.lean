/-
The two packet builders, side by side.

`SideBySide` relates a regular builder to one that writes in place: the same body, the same space that
is left, and room under the size limit in the buffer. Accepted writes and padding keep it, and what the
two build from it differs in the width of the length only.
-/

import MasqueQuic.Quic.ControlFrameCodec
import MasqueQuic.Quic.HeaderCodec

namespace MasqueQuic

/-- The space that a header takes: both builders count two bytes for the length. -/
def PacketHeader.space (largestAckedPacketNum : UInt64) :
    PacketHeader → Except WriteFault (PacketNumEncodingResult × Nat)
  | .long header => do
      let encoding ← liftEncoding (encodePacketNumber header.packetSequenceNum largestAckedPacketNum)
      let tokenLength ← tokenHeaderLength header
      return (encoding, 1 + header.invariant.encoded.length + tokenLength +
        (kMaxPacketLenSize + encoding.length))
  | .short header => do
      let encoding ← liftEncoding (encodePacketNumber header.packetSequenceNum largestAckedPacketNum)
      return (encoding, 1 + header.connectionId.size + encoding.length)

/-- The write codec looks at the space that is left before each write. -/
def WritesAccepted : Nat → List BuilderWrite → Prop
  | _, [] => True
  | space, w :: ws => w.Accepted space ∧ WritesAccepted (space - w.data.length) ws

/-- The bytes of the frames. -/
def frameBytes (writes : List BuilderWrite) : Bytes := writes.flatMap BuilderWrite.data

theorem BuilderWrite.Accepted.length_le {w : BuilderWrite} {space : Nat} (h : w.Accepted space) :
    w.data.length ≤ space := by
  cases w with
  | bytes data => exact h
  | insert buf limit =>
    obtain ⟨hspace, -, -⟩ := h
    exact (List.length_take_le _ _).trans hspace
  | appendFrame => exact Nat.zero_le _

theorem toNat_sub_ofNat {a : UInt32} {n : Nat} (h : n ≤ a.toNat) :
    (a - UInt32.ofNat n).toNat = a.toNat - n := by
  have hlt := a.toNat_lt
  have hofNat : (UInt32.ofNat n).toNat = n := by
    rw [UInt32.toNat_ofNat']
    exact Nat.mod_eq_of_lt (by omega)
  rw [UInt32.toNat_sub_of_le _ _ (UInt32.le_iff_toNat_le.mpr (by rwa [hofNat])), hofNat]

/-- The builders have the same body and the same space left, and the buffer has room for it. -/
structure SideBySide (p : PacketPlan) (body : Bytes) (space : Nat) (r : RegularQuicPacketBuilder)
    (i : InplaceQuicPacketBuilder) : Prop where
  plan : p.Holds body i
  body : r.body = body
  remaining : r.remainingBytes.toNat = space
  sameRemaining : i.remainingBytes = r.remainingBytes
  isEmpty : i.isEmpty = r.isEmpty
  room : i.bufWriter.written + space ≤ i.bufWriter.most
  header : r.header = p.header
  packetHeader : r.packetHeader = p.packetHeader
  encoding : r.packetNumberEncoding = some p.encoding
  overhead : r.cipherOverhead = p.overhead

namespace SideBySide

variable {p : PacketPlan} {body data : Bytes} {space : Nat} {r : RegularQuicPacketBuilder}
  {i : InplaceQuicPacketBuilder}

theorem push (h : SideBySide p body space r i) (hspace : data.length ≤ space) :
    ∃ i', i.push data data.length = .ok i' ∧
      SideBySide p (body ++ data) (space - data.length)
        { r with toPacketBuilder := r.toPacketBuilder.push data } i' := by
  have hwritten : i.bufWriter.push data = .ok { i.bufWriter with
      iobuf := i.bufWriter.iobuf ++ data
      written := i.bufWriter.written + data.length } := by
    have hroom := h.room
    exact if_pos (by omega)
  have hpush : ∃ i', i.push data data.length = .ok i' ∧ i'.isEmpty = i.isEmpty ∧
      i'.remainingBytes = i.remainingBytes - UInt32.ofNat data.length ∧
      i'.bufWriter.written = i.bufWriter.written + data.length ∧
      i'.bufWriter.most = i.bufWriter.most := by
    unfold InplaceQuicPacketBuilder.push
    rw [hwritten, except_ok_bind]
    exact ⟨_, rfl, rfl, rfl, rfl, rfl⟩
  obtain ⟨i', hi', hempty, hremaining, hcount, hmost⟩ := hpush
  have hroom := h.room
  refine ⟨i', hi', h.plan.push hi', ?_, ?_, ?_, ?_, ?_, h.header, h.packetHeader, h.encoding,
    h.overhead⟩
  · rw [PacketBuilder.push, h.body]
  · rw [PacketBuilder.push]
    dsimp only
    rw [toNat_sub_ofNat (by rwa [h.remaining]), h.remaining]
  · rw [hremaining, h.sameRemaining]
    rfl
  · rw [hempty, h.isEmpty]
    rfl
  · rw [hcount, hmost]
    omega

theorem write {w : BuilderWrite} (h : SideBySide p body space r i) (hw : w.Accepted space) :
    ∃ r' i', r.write w = .ok r' ∧ i.write w = .ok i' ∧
      SideBySide p (body ++ w.data) (space - w.data.length) r' i' := by
  cases w with
  | bytes data =>
    obtain ⟨i', hi', hnext⟩ := h.push hw
    exact ⟨_, i', rfl, hi', hnext⟩
  | insert buf limit =>
    obtain ⟨hspace, hlen, hsome⟩ := hw
    have hnone : ¬ buf.chain_.isNone = true := by
      rw [Option.isNone_iff_eq_none]
      exact Option.isSome_iff_ne_none.mp hsome
    have hdata : (buf.bytes.take limit).length = limit := by
      rw [List.length_take, buf.length_bytes, Nat.min_eq_left hlen]
    have hroom := h.room
    obtain ⟨i', hi', hnext⟩ := @push p body (buf.bytes.take limit) space r i h (by rwa [hdata])
    refine ⟨_, i', ?_, ?_, hnext⟩
    · unfold RegularQuicPacketBuilder.write
      dsimp only
      rw [if_neg hnone, if_neg (Nat.not_lt.mpr hlen)]
    · unfold InplaceQuicPacketBuilder.write
      dsimp only
      rw [if_neg hnone, if_neg (by omega)]
      rwa [hdata] at hi'
  | appendFrame =>
    refine ⟨_, _, rfl, rfl, ⟨?_, ?_, h.remaining, h.sameRemaining, rfl, h.room, h.header,
      h.packetHeader, h.encoding, h.overhead⟩⟩
    · exact h.plan.write rfl
    · rw [BuilderWrite.data, List.append_nil]
      exact h.body

/-- After every accepted write. -/
theorem writes {ws : List BuilderWrite} (h : SideBySide p body space r i)
    (hws : WritesAccepted space ws) :
    ∃ r' i', ws.foldlM RegularQuicPacketBuilder.write r = .ok r' ∧
      ws.foldlM InplaceQuicPacketBuilder.write i = .ok i' ∧
      (frameBytes ws).length ≤ space ∧
      SideBySide p (body ++ frameBytes ws) (space - (frameBytes ws).length) r' i' := by
  induction ws generalizing body space r i with
  | nil =>
    refine ⟨r, i, rfl, rfl, Nat.zero_le _, ?_⟩
    rwa [show frameBytes [] = [] from rfl, List.append_nil, List.length_nil, Nat.sub_zero]
  | cons w ws ih =>
    obtain ⟨hw, hws⟩ := hws
    obtain ⟨r₁, i₁, hr, hi, hnext⟩ := h.write hw
    obtain ⟨r', i', hr', hi', hle, hlast⟩ := ih hnext hws
    have hbytes : frameBytes (w :: ws) = w.data ++ frameBytes ws := List.flatMap_cons
    have hwle := hw.length_le
    refine ⟨r', i', ?_, ?_, ?_, ?_⟩
    · rw [List.foldlM_cons, hr, except_ok_bind, hr']
    · rw [List.foldlM_cons, hi, except_ok_bind, hi']
    · rw [hbytes, List.length_append]
      omega
    · rw [hbytes, ← List.append_assoc, List.length_append, ← Nat.sub_sub]
      exact hlast

/-- Padding does not make a packet non-empty. -/
theorem isEmpty_padBody (n : Nat) (b : PacketBuilder) : (b.padBody n).isEmpty = b.isEmpty := by
  induction n generalizing b with
  | zero => rfl
  | succ n ih =>
    unfold PacketBuilder.padBody
    split
    · rw [ih]
      rfl
    · rfl

/-- The number of padding bytes: two bytes are kept. -/
def paddingSize (isEmpty : Bool) (n space : Nat) : Nat :=
  if isEmpty then 0 else min n (space - kMaxPacketLenSize)

theorem padBody {n : Nat} (h : SideBySide p body space r i) :
    ∃ i', i.padBody n = .ok i' ∧
      SideBySide p (body ++ List.replicate (paddingSize r.isEmpty n space) 0)
        (space - paddingSize r.isEmpty n space)
        { r with toPacketBuilder := r.toPacketBuilder.padBody n } i' := by
  induction n generalizing body space r i with
  | zero =>
    have hzero : paddingSize r.isEmpty 0 space = 0 := by
      unfold paddingSize
      split <;> omega
    rw [hzero, List.replicate_zero, List.append_nil]
    exact ⟨i, rfl, h⟩
  | succ n ih =>
    unfold InplaceQuicPacketBuilder.padBody PacketBuilder.padBody
    rw [h.sameRemaining, h.isEmpty, h.remaining]
    by_cases hpad : r.isEmpty = false ∧ space > kMaxPacketLenSize
    · obtain ⟨hnonempty, hspace⟩ := hpad
      obtain ⟨i₁, hi₁, hnext⟩ := @push p body [0] space r i h
        (show 1 ≤ space from Nat.one_le_of_lt hspace)
      obtain ⟨i', hi', hlast⟩ := ih hnext
      have hsize : paddingSize r.isEmpty (n + 1) space =
          paddingSize r.isEmpty n (space - 1) + 1 := by
        unfold paddingSize
        rw [hnonempty, if_neg Bool.false_ne_true, if_neg Bool.false_ne_true]
        omega
      have hcond : (!r.isEmpty && decide (space > kMaxPacketLenSize)) = true := by
        rw [hnonempty, decide_eq_true hspace]
        rfl
      rw [if_pos hcond, if_pos hcond, hsize, List.replicate_succ, List.append_cons,
        Nat.add_comm _ 1, ← Nat.sub_sub]
      refine ⟨i', ?_, hlast⟩
      rw [show i.push [0] 1 = .ok i₁ from hi₁, except_ok_bind]
      exact hi'
    · have hsize : paddingSize r.isEmpty (n + 1) space = 0 := by
        unfold paddingSize
        cases hempty : r.isEmpty with
        | true => exact if_pos rfl
        | false =>
          have hspace : ¬ space > kMaxPacketLenSize := fun hspace => hpad ⟨hempty, hspace⟩
          rw [if_neg Bool.false_ne_true]
          omega
      have hcond : ¬ (!r.isEmpty && decide (space > kMaxPacketLenSize)) = true := by
        intro hcond
        rw [Bool.and_eq_true, decide_eq_true_iff] at hcond
        exact hpad ⟨by simpa using hcond.1, hcond.2⟩
      rw [if_neg hcond, if_neg hcond, hsize, List.replicate_zero, List.append_nil]
      exact ⟨i, rfl, h⟩

end SideBySide

/-! ### Starting -/

theorem encodeToken_of_tokenHeaderLength {header : LongHeader} {tokenLength : Nat}
    (h : tokenHeaderLength header = .ok tokenLength) (hretry : header.longHeaderType ≠ .retry) :
    ∃ tokenBytes, encodeToken header = .ok tokenBytes ∧ tokenBytes.length = tokenLength := by
  suffices hexists : ∃ tokenBytes, encodeToken header = .ok tokenBytes by
    obtain ⟨tokenBytes, htoken⟩ := hexists
    rw [tokenHeaderLength_of_encodeToken htoken] at h
    cases h
    exact ⟨tokenBytes, htoken, rfl⟩
  unfold tokenHeaderLength at h
  unfold encodeToken
  cases htype : header.longHeaderType with
  | retry => exact absurd htype hretry
  | zeroRtt => exact ⟨_, rfl⟩
  | handshake => exact ⟨_, rfl⟩
  | initial =>
    rw [htype] at h
    dsimp only at h ⊢
    cases hsize : integerSize header.token.length with
    | error e =>
      rw [WireField.getSize, hsize] at h
      cases h
    | ok size =>
      obtain ⟨lenBytes, hlen, -⟩ := encode_of_size (size_of_integerSize hsize)
      rw [hlen]
      exact ⟨_, rfl⟩

section Start

variable {limit : UInt32} {largestAckedPacketNum : UInt64} {overhead : UInt8}
  {encoding : PacketNumEncodingResult} {headerSize : Nat}

/-- The builders are ready for frames. -/
structure Started (p : PacketPlan) (encoding : PacketNumEncodingResult) (overhead : UInt8)
    (headerSize space : Nat) (r : RegularQuicPacketBuilder) (i : InplaceQuicPacketBuilder) : Prop where
  sideBySide : SideBySide p [] space r i
  isEmpty : r.isEmpty = true
  encoding : p.encoding = encoding
  overhead : p.overhead = overhead
  headerSize : p.header.length + p.room.length = headerSize

theorem started_long (before : Bytes) {header : LongHeader}
    (hspace : (PacketHeader.long header).space largestAckedPacketNum = .ok (encoding, headerSize))
    (hfits : headerSize + overhead.toNat ≤ limit.toNat) (hretry : header.longHeaderType ≠ .retry) :
    ∃ bytes r i,
      RegularQuicPacketBuilder.start limit (.long header) largestAckedPacketNum overhead = .ok r ∧
      InplaceQuicPacketBuilder.start before limit (.long header) largestAckedPacketNum overhead =
        .ok i ∧
      Started (InplaceQuicPacketBuilder.longPlan before bytes header encoding overhead) encoding
        overhead headerSize (limit.toNat - overhead.toNat - headerSize) r i := by
  simp only [PacketHeader.space, except_bind_eq_ok] at hspace
  obtain ⟨encoding', hencoding, tokenLength, htokenLength, hreturn⟩ := hspace
  cases hreturn
  obtain ⟨tokenBytes, htoken, rfl⟩ := encodeToken_of_tokenHeaderLength htokenLength hretry
  have hhelper : ∃ bytes space,
      encodeLongHeaderHelper header (limit - UInt32.ofNat overhead.toNat) largestAckedPacketNum =
        .ok (encoding, bytes, space) := by
    unfold encodeLongHeaderHelper
    rw [hencoding, except_ok_bind, htokenLength, except_ok_bind, htoken, except_ok_bind]
    exact ⟨_, _, rfl⟩
  obtain ⟨bytes, space, hhelper⟩ := hhelper
  obtain ⟨-, tokenBytes', htoken', hbytes, hleft⟩ := encodeLongHeaderHelper_ok hhelper
  rw [htoken] at htoken'
  cases htoken'
  have hlength : bytes.length = 1 + header.invariant.encoded.length + tokenBytes.length := by
    rw [hbytes, List.length_cons, List.length_append]
    omega
  have hlimit : (limit - UInt32.ofNat overhead.toNat).toNat = limit.toNat - overhead.toNat :=
    toNat_sub_ofNat (by omega)
  have hremaining : space.toNat = limit.toNat - overhead.toNat -
      (1 + header.invariant.encoded.length + tokenBytes.length +
        (kMaxPacketLenSize + encoding.length)) := by
    rw [hleft, if_neg hretry, hlength, if_neg (by omega), toNat_sub_ofNat (by omega), hlimit]
  have hpush : bytes.length ≤ limit.toNat := by omega
  have hinplace : ∃ i, InplaceQuicPacketBuilder.start before limit (.long header)
      largestAckedPacketNum overhead = .ok i := by
    unfold InplaceQuicPacketBuilder.start InplaceQuicPacketBuilder.encodePacketHeader
    rw [if_neg (by simp [InplaceQuicPacketBuilder.accountForCipherOverhead,
      InplaceQuicPacketBuilder.new])]
    simp only [InplaceQuicPacketBuilder.accountForCipherOverhead, InplaceQuicPacketBuilder.new]
    rw [hhelper, except_ok_bind]
    dsimp only
    rw [show BufWriter.push _ bytes = .ok _ from if_pos (by dsimp only; omega), except_ok_bind]
    exact ⟨_, rfl⟩
  obtain ⟨i, hi⟩ := hinplace
  obtain ⟨_, _, _, hhelper', hplan, hspace, hempty, hmost, hwritten⟩ :=
    InplaceQuicPacketBuilder.start_long hi
  rw [hhelper] at hhelper'
  cases hhelper'
  have hroom : (InplaceQuicPacketBuilder.longPlan before bytes header encoding overhead).room.length =
      kMaxPacketLenSize + encoding.length := by
    dsimp only [InplaceQuicPacketBuilder.longPlan]
    rw [if_neg hretry, InplaceQuicPacketBuilder.placeholder, List.length_replicate, Nat.add_comm]
  have hregular : ∃ r, RegularQuicPacketBuilder.start limit (.long header) largestAckedPacketNum
      overhead = .ok r ∧ r.body = [] ∧ r.remainingBytes = space ∧ r.isEmpty = true ∧
        r.header = bytes ∧ r.packetHeader = .long header ∧ r.packetNumberEncoding = some encoding ∧
        r.cipherOverhead = overhead := by
    unfold RegularQuicPacketBuilder.start RegularQuicPacketBuilder.encodePacketHeader
    rw [if_neg (by simp [RegularQuicPacketBuilder.accountForCipherOverhead,
      RegularQuicPacketBuilder.new])]
    simp only [RegularQuicPacketBuilder.accountForCipherOverhead, RegularQuicPacketBuilder.new]
    rw [hhelper, except_ok_bind]
    exact ⟨_, rfl, rfl, rfl, rfl, rfl, rfl, rfl, rfl⟩
  obtain ⟨r, hr, hbody, hrspace, hrempty, hrheader, hrpacket, hrencoding, hroverhead⟩ := hregular
  refine ⟨bytes, r, i, hr, hi, ⟨⟨hplan, hbody, ?_, ?_, ?_, ?_, hrheader, hrpacket, hrencoding,
    hroverhead⟩, hrempty, rfl, rfl, ?_⟩⟩
  · rw [hrspace, hremaining]
  · rw [hspace, hrspace]
  · rw [hempty, hrempty]
  · rw [hwritten, hmost, hroom]
    omega
  · rw [hroom]
    dsimp only [InplaceQuicPacketBuilder.longPlan]
    rw [hlength]

theorem started_short (before : Bytes) {header : ShortHeader}
    (hspace : (PacketHeader.short header).space largestAckedPacketNum = .ok (encoding, headerSize))
    (hfits : headerSize + overhead.toNat ≤ limit.toNat) :
    ∃ bytes r i,
      RegularQuicPacketBuilder.start limit (.short header) largestAckedPacketNum overhead = .ok r ∧
      InplaceQuicPacketBuilder.start before limit (.short header) largestAckedPacketNum overhead =
        .ok i ∧
      Started (InplaceQuicPacketBuilder.shortPlan before bytes header encoding overhead) encoding
        overhead headerSize (limit.toNat - overhead.toNat - headerSize) r i := by
  simp only [PacketHeader.space, except_bind_eq_ok] at hspace
  obtain ⟨encoding', hencoding, hreturn⟩ := hspace
  cases hreturn
  have hlimit : (limit - UInt32.ofNat overhead.toNat).toNat = limit.toNat - overhead.toNat :=
    toNat_sub_ofNat (by omega)
  have hone : (limit - UInt32.ofNat overhead.toNat - 1).toNat = limit.toNat - overhead.toNat - 1 := by
    have hsub := toNat_sub_ofNat (a := limit - UInt32.ofNat overhead.toNat) (n := 1) (by omega)
    rw [hlimit] at hsub
    exact hsub
  have hhelper : ∃ bytes space,
      encodeShortHeaderHelper header (limit - UInt32.ofNat overhead.toNat) largestAckedPacketNum =
        .ok (some encoding, bytes, space) ∧ bytes.length = 1 + header.connectionId.size ∧
      space = limit - UInt32.ofNat overhead.toNat - 1 - UInt32.ofNat header.connectionId.size := by
    unfold encodeShortHeaderHelper
    rw [hencoding, except_ok_bind]
    dsimp only
    rw [if_neg (by omega)]
    exact ⟨_, _, rfl, Nat.add_comm _ _, rfl⟩
  obtain ⟨bytes, space, hhelper, hlength, hleft⟩ := hhelper
  have hspace : space.toNat = limit.toNat - overhead.toNat - 1 - header.connectionId.size := by
    rw [hleft, toNat_sub_ofNat (by omega), hone]
  have hremaining : (space - UInt32.ofNat encoding.length).toNat = limit.toNat - overhead.toNat -
      (1 + header.connectionId.size + encoding.length) := by
    rw [toNat_sub_ofNat (by omega), hspace]
    omega
  have hnumber := length_beBytes encoding.length encoding.result
  have hinplace : ∃ i, InplaceQuicPacketBuilder.start before limit (.short header)
      largestAckedPacketNum overhead = .ok i ∧ i.packetNumberEncoding = some encoding := by
    unfold InplaceQuicPacketBuilder.start InplaceQuicPacketBuilder.encodePacketHeader
    rw [if_neg (by simp [InplaceQuicPacketBuilder.accountForCipherOverhead,
      InplaceQuicPacketBuilder.new])]
    simp only [InplaceQuicPacketBuilder.accountForCipherOverhead, InplaceQuicPacketBuilder.new]
    rw [hhelper, except_ok_bind]
    dsimp only
    rw [show BufWriter.push _ bytes = .ok _ from if_pos (by dsimp only; omega), except_ok_bind,
      show BufWriter.push _ (beBytes encoding.length encoding.result) = .ok _ from
        if_pos (by dsimp only; omega), except_ok_bind]
    exact ⟨_, rfl, rfl⟩
  obtain ⟨i, hi, hiencoding⟩ := hinplace
  obtain ⟨_, _, hhelper', hplan, hispace, hempty, hmost, hwritten⟩ :=
    InplaceQuicPacketBuilder.start_short hi hiencoding
  rw [hhelper] at hhelper'
  cases hhelper'
  have hregular : ∃ r, RegularQuicPacketBuilder.start limit (.short header) largestAckedPacketNum
      overhead = .ok r ∧ r.body = [] ∧ r.remainingBytes = space - UInt32.ofNat encoding.length ∧
        r.isEmpty = true ∧ r.header = bytes ++ beBytes encoding.length encoding.result ∧
        r.packetHeader = .short header ∧ r.packetNumberEncoding = some encoding ∧
        r.cipherOverhead = overhead := by
    unfold RegularQuicPacketBuilder.start RegularQuicPacketBuilder.encodePacketHeader
    rw [if_neg (by simp [RegularQuicPacketBuilder.accountForCipherOverhead,
      RegularQuicPacketBuilder.new])]
    simp only [RegularQuicPacketBuilder.accountForCipherOverhead, RegularQuicPacketBuilder.new]
    rw [hhelper, except_ok_bind]
    exact ⟨_, rfl, rfl, rfl, rfl, rfl, rfl, rfl, rfl⟩
  obtain ⟨r, hr, hbody, hrspace, hrempty, hrheader, hrpacket, hrencoding, hroverhead⟩ := hregular
  refine ⟨bytes, r, i, hr, hi, ⟨⟨hplan, hbody, ?_, ?_, ?_, ?_, hrheader, hrpacket, hrencoding,
    hroverhead⟩, hrempty, rfl, rfl, ?_⟩⟩
  · rw [hrspace, hremaining]
  · rw [hispace, hrspace]
  · rw [hempty, hrempty]
  · rw [hwritten, hmost]
    omega
  · dsimp only [InplaceQuicPacketBuilder.shortPlan]
    rw [List.length_append, hlength, hnumber]
    rfl

end Start

/-! ### What is parsed -/

/-- What the receiver makes of a long header: the fields, the value of the length and what is left, from
the packet number on. -/
def BuiltPacket.parsedLong (packet : BuiltPacket) (sealed : Bytes) :
    Except TransportErrorCode (Option (LongHeader × Nat) × Bytes) :=
  match packet.header ++ sealed with
  | [] => .error .frameEncodingError
  | initialByte :: cursor =>
      match (parseLongHeader initialByte).run cursor with
      | .error e => .error e
      | .ok (.versionNegotiation, rest) => .ok (none, rest)
      | .ok (.parsed parsed, rest) =>
          .ok (some (parsed.header, parsed.packetLength.packetLength), rest)

theorem parsedLong_eq {limit : UInt32} {header : LongHeader} {largestAckedPacketNum : UInt64}
    {overhead : UInt8} {packet : BuiltPacket} {encoding : PacketNumEncodingResult} {sealed : Bytes}
    (h : HeaderBuilt limit largestAckedPacketNum overhead packet (.long header))
    (hencoding : encodePacketNumber header.packetSequenceNum largestAckedPacketNum = .ok encoding)
    (hretry : header.longHeaderType ≠ .retry)
    (hversion : header.invariant.version ≠ .versionNegotiation)
    (hsealed : packet.body.length + overhead.toNat ≤ sealed.length) :
    packet.parsedLong sealed =
      if header.longHeaderType = .initial ∧
          header.invariant.dstConnId.size < kMinInitialDestinationConnIdLength then
        .error .frameEncodingError
      else .ok (some (⟨0, header.longHeaderType, header.invariant, header.sentToken⟩,
          encoding.length + packet.body.length + overhead.toNat),
        beBytes encoding.length encoding.result ++ sealed) := by
  obtain ⟨encoding', bytes, space, hencode, hbuilt⟩ := h
  rw [if_neg hretry] at hbuilt
  obtain ⟨lenBytes, hlen, hheader⟩ := hbuilt
  obtain ⟨hencoding', tokenBytes, htoken, hbytes, -⟩ := encodeLongHeaderHelper_ok hencode
  rw [hencoding] at hencoding'
  cases hencoding'
  have hpnlen := length_beBytes encoding.length encoding.result
  have hrest : (beBytes encoding.length encoding.result ++ sealed).length =
      encoding.length + sealed.length := by rw [List.length_append, hpnlen]
  by_cases hshort : header.longHeaderType = .initial ∧
      header.invariant.dstConnId.size < kMinInitialDestinationConnIdLength
  · obtain ⟨hlow, hhigh⟩ := length_packetNumber hencoding
    obtain ⟨hform, htype, -⟩ := longHeaderInitialByte_parsed header.longHeaderType hlow hhigh
    have hcursor : packet.header ++ sealed =
        longHeaderInitialByte header.longHeaderType encoding.length :: (header.invariant.encoded ++
          (tokenBytes ++ (lenBytes ++ (beBytes encoding.length encoding.result ++ sealed)))) := by
      rw [hheader, hbytes]
      simp only [List.cons_append, List.append_assoc]
    have hparse : (parseLongHeader (longHeaderInitialByte header.longHeaderType encoding.length)).run
        (header.invariant.encoded ++
          (tokenBytes ++ (lenBytes ++ (beBytes encoding.length encoding.result ++ sealed)))) =
        .error .frameEncodingError := by
      change parseLongHeader _ _ = _
      unfold parseLongHeader
      rw [if_neg (fun hne => hne hform), accepts_parseLongHeaderInvariant]
      dsimp only
      rw [if_neg hversion, htype, hshort.1]
      unfold parseLongHeaderVariants
      dsimp only
      rw [if_pos ⟨rfl, rfl, hshort.2⟩]
      rfl
    unfold BuiltPacket.parsedLong
    rw [if_pos hshort, hcursor]
    dsimp only
    rw [hparse]
  · have hdst : header.longHeaderType = .initial →
        kMinInitialDestinationConnIdLength ≤ header.invariant.dstConnId.size := by
      intro hinitial
      exact Nat.le_of_not_lt fun hlt => hshort ⟨hinitial, hlt⟩
    obtain ⟨first, tail, hfirst, hparse⟩ := @parseLongHeader_encoded _ _ _ _ _
      (beBytes encoding.length encoding.result ++ sealed) _ _ _ hencode hretry hversion hdst hlen
      (by rw [hrest]; omega) (by rw [hrest]; omega)
    have hcursor : packet.header ++ sealed =
        first :: (tail ++ (lenBytes ++ (beBytes encoding.length encoding.result ++ sealed))) := by
      rw [hheader, hfirst]
      simp only [List.cons_append, List.append_assoc]
    unfold BuiltPacket.parsedLong
    rw [if_neg hshort, hcursor]
    dsimp only
    rw [hparse]

/-! ### What is built -/

namespace SideBySide

variable {before bytes body : Bytes} {space : Nat} {overhead : UInt8}
  {encoding : PacketNumEncodingResult} {r : RegularQuicPacketBuilder} {i : InplaceQuicPacketBuilder}

/-- The body of the packet, with its padding. -/
def paddedBody (encoding : PacketNumEncodingResult) (overhead : UInt8) (isEmpty : Bool) (space : Nat)
    (body : Bytes) : Bytes :=
  body ++ List.replicate
    (paddingSize isEmpty (minBodySize encoding - (body.length + overhead.toNat)) space) 0

theorem length_paddedBody {isEmpty : Bool} :
    (paddedBody encoding overhead isEmpty space body).length = body.length +
      paddingSize isEmpty (minBodySize encoding - (body.length + overhead.toNat)) space := by
  rw [paddedBody, List.length_append, List.length_replicate]

/-- Both builders pad the body to the same bytes. -/
theorem padToMinimum {p : PacketPlan} (h : SideBySide p body space r i)
    (encoding : PacketNumEncodingResult) (overhead : UInt8) :
    ∃ i', i.padBody (minBodySize encoding - (body.length + overhead.toNat)) = .ok i' ∧
      p.Holds (paddedBody encoding overhead r.isEmpty space body) i' ∧
      (r.toPacketBuilder.padBody (minBodySize encoding - (body.length + overhead.toNat))).body =
        paddedBody encoding overhead r.isEmpty space body ∧
      i'.isEmpty = r.isEmpty := by
  obtain ⟨i', hpad, hpadded⟩ :=
    @padBody _ _ _ _ _ (minBodySize encoding - (body.length + overhead.toNat)) h
  refine ⟨i', hpad, hpadded.plan, hpadded.body, ?_⟩
  rw [hpadded.isEmpty]
  exact isEmpty_padBody _ _

theorem buildPacket_long {header : LongHeader}
    (h : SideBySide (InplaceQuicPacketBuilder.longPlan before bytes header encoding overhead) body
      space r i) (hretry : header.longHeaderType ≠ .retry)
    (hlimit : encoding.length + (paddedBody encoding overhead r.isEmpty space body).length +
      overhead.toNat ≤ kTwoByteLimit) :
    ∃ lenBytes lenBytes', lenBytes.length ≤ kMaxPacketLenSize ∧
      lenBytes'.length = kMaxPacketLenSize ∧
      r.buildPacket = .ok ⟨bytes ++ lenBytes ++ beBytes encoding.length encoding.result,
        paddedBody encoding overhead r.isEmpty space body, r.isEmpty⟩ ∧
      i.buildPacket = .ok ⟨bytes ++ (lenBytes' ++ beBytes encoding.length encoding.result),
        paddedBody encoding overhead r.isEmpty space body, r.isEmpty⟩ := by
  obtain ⟨i', hpad, hplan, hbody, hempty⟩ := h.padToMinimum encoding overhead
  obtain ⟨lenBytes, hlen⟩ : ∃ lenBytes, encodeQuicInteger (encoding.length +
      (paddedBody encoding overhead r.isEmpty space body).length + overhead.toNat) =
        some lenBytes := by
    apply encodeQuicInteger_of_lt
    unfold kTwoByteLimit at hlimit
    omega
  have hinplace := InplaceQuicPacketBuilder.buildPacket_long h.plan hretry hpad hplan
  rw [encodePacketLength_eq hlimit, except_ok_bind, hempty] at hinplace
  refine ⟨lenBytes, _, length_encode_le_two hlen hlimit, length_beBytes 2 _, ?_, hinplace⟩
  unfold RegularQuicPacketBuilder.buildPacket
  rw [h.encoding, h.packetHeader, h.header, h.overhead, h.body]
  dsimp only [InplaceQuicPacketBuilder.longPlan]
  rw [if_neg hretry, hbody, hlen]

theorem buildPacket_short {header : ShortHeader}
    (h : SideBySide (InplaceQuicPacketBuilder.shortPlan before bytes header encoding overhead) body
      space r i) :
    r.buildPacket = .ok ⟨bytes ++ beBytes encoding.length encoding.result,
        paddedBody encoding overhead r.isEmpty space body, r.isEmpty⟩ ∧
      i.buildPacket = .ok ⟨bytes ++ beBytes encoding.length encoding.result,
        paddedBody encoding overhead r.isEmpty space body, r.isEmpty⟩ := by
  obtain ⟨i', hpad, hplan, hbody, hempty⟩ := h.padToMinimum encoding overhead
  have hshort : ∀ header', (InplaceQuicPacketBuilder.shortPlan before bytes header encoding
      overhead).packetHeader = .long header' → header'.longHeaderType = .retry := by
    intro header' hlong
    cases hlong
  have hinplace := InplaceQuicPacketBuilder.buildPacket_noRoom h.plan rfl hshort hpad hplan
  rw [hempty] at hinplace
  refine ⟨?_, hinplace⟩
  unfold RegularQuicPacketBuilder.buildPacket
  rw [h.encoding, h.packetHeader, h.header, h.overhead, h.body]
  dsimp only [InplaceQuicPacketBuilder.shortPlan]
  rw [hbody]

end SideBySide

/-! ### The two packets -/

/-- The headers are parsed into the same fields, with the same value for the length. -/
def SameFields (overhead : UInt8) (regular inplace : BuiltPacket) : PacketHeader → Prop
  | .long header => header.invariant.version ≠ .versionNegotiation →
      ∀ sealed : Bytes, regular.body.length + overhead.toNat ≤ sealed.length →
        regular.parsedLong sealed = inplace.parsedLong sealed
  | .short _ => regular.header = inplace.header

/-- The two packets are as good as the same; `HeaderBuilt` says what the length field holds. -/
structure PacketsAgree (limit : UInt32) (packetHeader : PacketHeader) (largestAckedPacketNum : UInt64)
    (overhead : UInt8) (regular inplace : BuiltPacket) : Prop where
  body : regular.body = inplace.body
  isEmpty : regular.isEmpty = inplace.isEmpty
  fields : SameFields overhead regular inplace packetHeader
  regularHeader : HeaderBuilt limit largestAckedPacketNum overhead regular packetHeader
  inplaceHeader : HeaderBuilt limit largestAckedPacketNum overhead inplace packetHeader
  regularSize : regular.header.length + regular.body.length + overhead.toNat ≤ limit.toNat
  inplaceSize : inplace.header.length + inplace.body.length + overhead.toNat ≤ limit.toNat

/-- The receiver finds its sample: four bytes for the packet number and the sample. -/
def LongEnough (encoding : PacketNumEncodingResult) (overhead : UInt8) (packet : BuiltPacket) : Prop :=
  packet.isEmpty = false → kMaxPacketNumEncodingSize + sizeofSample ≤
    encoding.length + packet.body.length + overhead.toNat

section Agree

variable {before : Bytes} {limit : UInt32} {packetHeader : PacketHeader}
  {largestAckedPacketNum : UInt64} {overhead : UInt8} {writes : List BuilderWrite}
  {encoding : PacketNumEncodingResult} {headerSize : Nat}

/-- After these writes, both builders have the same space left. -/
def SpaceAlike (before : Bytes) (limit : UInt32) (packetHeader : PacketHeader)
    (largestAckedPacketNum : UInt64) (overhead : UInt8) (space : Nat) (ws : List BuilderWrite) : Prop :=
  ∃ r i, (do
      let started ← RegularQuicPacketBuilder.start limit packetHeader largestAckedPacketNum overhead
      ws.foldlM RegularQuicPacketBuilder.write started) = .ok r ∧
    (do
      let started ← InplaceQuicPacketBuilder.start before limit packetHeader largestAckedPacketNum
        overhead
      ws.foldlM InplaceQuicPacketBuilder.write started) = .ok i ∧
    r.remainingSpaceInPkt = i.remainingSpaceInPkt ∧
    r.remainingSpaceInPkt.toNat = space - (frameBytes ws).length

theorem WritesAccepted.take {space : Nat} {ws : List BuilderWrite} (h : WritesAccepted space ws)
    (k : Nat) : WritesAccepted space (ws.take k) := by
  induction ws generalizing space k with
  | nil =>
    rw [List.take_nil]
    trivial
  | cons w ws ih =>
    cases k with
    | zero => trivial
    | succ k => exact ⟨h.1, ih h.2 k⟩

theorem Started.spaceAlike {p : PacketPlan} {space : Nat} {r : RegularQuicPacketBuilder}
    {i : InplaceQuicPacketBuilder} {ws : List BuilderWrite}
    (h : Started p encoding overhead headerSize space r i)
    (hr : RegularQuicPacketBuilder.start limit packetHeader largestAckedPacketNum overhead = .ok r)
    (hi : InplaceQuicPacketBuilder.start before limit packetHeader largestAckedPacketNum overhead =
      .ok i) (hws : WritesAccepted space ws) :
    SpaceAlike before limit packetHeader largestAckedPacketNum overhead space ws := by
  obtain ⟨r', i', hr', hi', -, hlast⟩ := h.sideBySide.writes hws
  refine ⟨r', i', ?_, ?_, hlast.sameRemaining.symm, hlast.remaining⟩
  · rw [hr, except_ok_bind, hr']
  · rw [hi, except_ok_bind, hi']

/-- How long the padded body is: padding stops two bytes before the limit. -/
theorem paddedBody_bounds {isEmpty : Bool} {body : Bytes} {space : Nat}
    (hlow : 1 ≤ encoding.length) (hhigh : encoding.length ≤ kMaxPacketNumEncodingSize) :
    body.length ≤ (SideBySide.paddedBody encoding overhead isEmpty space body).length ∧
    (SideBySide.paddedBody encoding overhead isEmpty space body).length ≤ body.length + space ∧
    (encoding.length + body.length + overhead.toNat ≤ kTwoByteLimit →
      encoding.length + (SideBySide.paddedBody encoding overhead isEmpty space body).length +
        overhead.toNat ≤ kTwoByteLimit) ∧
    (isEmpty = false → minBodySize encoding ≤ body.length + overhead.toNat ∨
        minBodySize encoding + kMaxPacketLenSize ≤ body.length + space + overhead.toNat →
      kMaxPacketNumEncodingSize + sizeofSample ≤ encoding.length +
        (SideBySide.paddedBody encoding overhead isEmpty space body).length + overhead.toNat) := by
  rw [SideBySide.length_paddedBody]
  unfold kMaxPacketNumEncodingSize at hhigh
  unfold SideBySide.paddingSize minBodySize sizeofSample kMaxPacketNumEncodingSize kMaxPacketLenSize
    kTwoByteLimit
  refine ⟨Nat.le_add_right _ _, ?_, ?_, ?_⟩
  · split <;> omega
  · split <;> omega
  · intro hnonempty hroom
    rw [hnonempty, if_neg Bool.false_ne_true]
    omega

theorem regularBuild_eq {r r' : RegularQuicPacketBuilder}
    (hr : RegularQuicPacketBuilder.start limit packetHeader largestAckedPacketNum overhead = .ok r)
    (hr' : writes.foldlM RegularQuicPacketBuilder.write r = .ok r') :
    RegularQuicPacketBuilder.build limit packetHeader largestAckedPacketNum overhead writes =
      r'.buildPacket := by
  rw [RegularQuicPacketBuilder.build, hr, except_ok_bind, hr', except_ok_bind]

theorem inplaceBuild_eq {i i' : InplaceQuicPacketBuilder}
    (hi : InplaceQuicPacketBuilder.start before limit packetHeader largestAckedPacketNum overhead =
      .ok i) (hi' : writes.foldlM InplaceQuicPacketBuilder.write i = .ok i') :
    InplaceQuicPacketBuilder.build before limit packetHeader largestAckedPacketNum overhead writes =
      i'.buildPacket := by
  rw [InplaceQuicPacketBuilder.build, hi, except_ok_bind, hi', except_ok_bind]

/-- Two packets with the same padded body, and headers that take the space that was counted. -/
theorem packetsAgree_of_header {isEmpty : Bool} {regularHeader inplaceHeader frames body : Bytes}
    (hencoding : 1 ≤ encoding.length ∧ encoding.length ≤ kMaxPacketNumEncodingSize)
    (hbody : body = SideBySide.paddedBody encoding overhead isEmpty
      (limit.toNat - overhead.toNat - headerSize - frames.length) frames)
    (hfits : headerSize + overhead.toNat ≤ limit.toNat)
    (hframes : frames.length ≤ limit.toNat - overhead.toNat - headerSize)
    (hregular : HeaderBuilt limit largestAckedPacketNum overhead ⟨regularHeader, body, isEmpty⟩
      packetHeader)
    (hinplace : HeaderBuilt limit largestAckedPacketNum overhead ⟨inplaceHeader, body, isEmpty⟩
      packetHeader)
    (hregularSize : regularHeader.length ≤ headerSize)
    (hinplaceSize : inplaceHeader.length ≤ headerSize)
    (hfields : SameFields overhead ⟨regularHeader, body, isEmpty⟩ ⟨inplaceHeader, body, isEmpty⟩
      packetHeader) :
    PacketsAgree limit packetHeader largestAckedPacketNum overhead ⟨regularHeader, body, isEmpty⟩
      ⟨inplaceHeader, body, isEmpty⟩ ∧
    (minBodySize encoding + kMaxPacketLenSize + headerSize ≤ limit.toNat ∨
        minBodySize encoding ≤ frames.length + overhead.toNat →
      LongEnough encoding overhead ⟨regularHeader, body, isEmpty⟩ ∧
        LongEnough encoding overhead ⟨inplaceHeader, body, isEmpty⟩) := by
  obtain ⟨-, hspace, -, hlong⟩ := @paddedBody_bounds overhead encoding isEmpty frames
    (limit.toNat - overhead.toNat - headerSize - frames.length) hencoding.1 hencoding.2
  rw [← hbody] at hspace hlong
  refine ⟨⟨rfl, rfl, hfields, hregular, hinplace, ?_, ?_⟩, ?_⟩
  · dsimp only
    omega
  · dsimp only
    omega
  · intro hroom
    have hlong : isEmpty = false → kMaxPacketNumEncodingSize + sizeofSample ≤
        encoding.length + body.length + overhead.toNat := by
      intro hnonempty
      apply hlong hnonempty
      rcases hroom with hroom | hroom
      · exact .inr (by omega)
      · exact .inl hroom
    exact ⟨hlong, hlong⟩

/-- The builders agree on the space, the body and the header, and the packets keep to the limit. When
there is room for the sample and the two bytes that padding leaves free, or when the frames alone are
long enough, the receiver finds its sample. -/
theorem builders_agree (before : Bytes)
    (hspace : packetHeader.space largestAckedPacketNum = .ok (encoding, headerSize))
    (hretry : ∀ header, packetHeader = .long header → header.longHeaderType ≠ .retry)
    (hfits : headerSize + overhead.toNat ≤ limit.toNat)
    (haccepted : WritesAccepted (limit.toNat - overhead.toNat - headerSize) writes)
    (hlong : ∀ header, packetHeader = .long header →
      encoding.length + (frameBytes writes).length + overhead.toNat ≤ kTwoByteLimit) :
    (∀ k, SpaceAlike before limit packetHeader largestAckedPacketNum overhead
      (limit.toNat - overhead.toNat - headerSize) (writes.take k)) ∧
    ∃ regular inplace,
      RegularQuicPacketBuilder.build limit packetHeader largestAckedPacketNum overhead writes =
        .ok regular ∧
      InplaceQuicPacketBuilder.build before limit packetHeader largestAckedPacketNum overhead writes =
        .ok inplace ∧
      PacketsAgree limit packetHeader largestAckedPacketNum overhead regular inplace ∧
      (minBodySize encoding + kMaxPacketLenSize + headerSize ≤ limit.toNat ∨
          minBodySize encoding ≤ (frameBytes writes).length + overhead.toNat →
        LongEnough encoding overhead regular ∧ LongEnough encoding overhead inplace) := by
  cases packetHeader with
  | long header =>
    have hretry := hretry header rfl
    obtain ⟨bytes, r, i, hr, hi, hstarted⟩ := started_long before hspace hfits hretry
    have hencoding : encodePacketNumber header.packetSequenceNum largestAckedPacketNum =
        .ok encoding := by
      simp only [PacketHeader.space, except_bind_eq_ok] at hspace
      obtain ⟨encoding', hencoding, _, -, hreturn⟩ := hspace
      cases hreturn
      exact liftEncoding_ok hencoding
    have hnumber := length_packetNumber hencoding
    refine ⟨fun k => hstarted.spaceAlike hr hi (haccepted.take k), ?_⟩
    obtain ⟨r', i', hr', hi', hframes, hlast⟩ := hstarted.sideBySide.writes haccepted
    rw [List.nil_append] at hlast
    obtain ⟨-, -, hlimit, -⟩ := @paddedBody_bounds overhead encoding r'.isEmpty (frameBytes writes)
      (limit.toNat - overhead.toNat - headerSize - (frameBytes writes).length) hnumber.1 hnumber.2
    obtain ⟨lenBytes, lenBytes', hwidth, hwidth', hregular, hinplace⟩ :=
      hlast.buildPacket_long hretry (hlimit (hlong header rfl))
    rw [← regularBuild_eq hr hr'] at hregular
    rw [← inplaceBuild_eq hi hi'] at hinplace
    have hheaderSize : bytes.length + (kMaxPacketLenSize + encoding.length) = headerSize := by
      rw [← hstarted.headerSize]
      dsimp only [InplaceQuicPacketBuilder.longPlan]
      rw [if_neg hretry, InplaceQuicPacketBuilder.placeholder, List.length_replicate, Nat.add_comm
        encoding.length]
    have hpnlen := length_beBytes encoding.length encoding.result
    refine ⟨_, _, hregular, hinplace, packetsAgree_of_header hnumber rfl hfits hframes
      (RegularQuicPacketBuilder.headerBuilt hregular)
      (InplaceQuicPacketBuilder.headerBuilt hinplace) ?_ ?_ ?_⟩
    · rw [List.length_append, List.length_append, hpnlen]
      omega
    · rw [List.length_append, List.length_append, hpnlen]
      omega
    · intro hversion sealed hsealed
      rw [parsedLong_eq (RegularQuicPacketBuilder.headerBuilt hregular) hencoding hretry hversion
        hsealed, parsedLong_eq (InplaceQuicPacketBuilder.headerBuilt hinplace) hencoding hretry
        hversion hsealed]
  | short header =>
    obtain ⟨bytes, r, i, hr, hi, hstarted⟩ := started_short before hspace hfits
    have hencoding : encodePacketNumber header.packetSequenceNum largestAckedPacketNum =
        .ok encoding := by
      simp only [PacketHeader.space, except_bind_eq_ok] at hspace
      obtain ⟨encoding', hencoding, hreturn⟩ := hspace
      cases hreturn
      exact liftEncoding_ok hencoding
    have hnumber := length_packetNumber hencoding
    refine ⟨fun k => hstarted.spaceAlike hr hi (haccepted.take k), ?_⟩
    obtain ⟨r', i', hr', hi', hframes, hlast⟩ := hstarted.sideBySide.writes haccepted
    rw [List.nil_append] at hlast
    obtain ⟨hregular, hinplace⟩ := hlast.buildPacket_short
    rw [← regularBuild_eq hr hr'] at hregular
    rw [← inplaceBuild_eq hi hi'] at hinplace
    have hsize : (bytes ++ beBytes encoding.length encoding.result).length = headerSize := by
      rw [← hstarted.headerSize]
      rfl
    exact ⟨_, _, hregular, hinplace, packetsAgree_of_header hnumber rfl hfits hframes
      (RegularQuicPacketBuilder.headerBuilt hregular)
      (InplaceQuicPacketBuilder.headerBuilt hinplace) hsize.le hsize.le rfl⟩

end Agree

/-- An Initial packet and a short header packet with little space. -/
theorem builders_agree_small :
    (∃ regular inplace,
      RegularQuicPacketBuilder.build 80 (.long ⟨300, .initial,
        ⟨.quicV1, repeatedConnectionId 0, repeatedConnectionId 8⟩, [5, 6]⟩) 7 16
        [.bytes [6, 0, 1, 9], .appendFrame] = .ok regular ∧
      InplaceQuicPacketBuilder.build [1, 2] 80 (.long ⟨300, .initial,
        ⟨.quicV1, repeatedConnectionId 0, repeatedConnectionId 8⟩, [5, 6]⟩) 7 16
        [.bytes [6, 0, 1, 9], .appendFrame] = .ok inplace ∧
      regular.header ≠ inplace.header ∧
      PacketsAgree 80 (.long ⟨300, .initial,
        ⟨.quicV1, repeatedConnectionId 0, repeatedConnectionId 8⟩, [5, 6]⟩) 7 16 regular inplace ∧
      LongEnough ⟨300, 2⟩ 16 inplace) ∧
    ∃ regular inplace,
      RegularQuicPacketBuilder.build 23 (.short ⟨5, .zero, repeatedConnectionId 0⟩) 0 16
        [.bytes [1], .appendFrame] = .ok regular ∧
      InplaceQuicPacketBuilder.build [] 23 (.short ⟨5, .zero, repeatedConnectionId 0⟩) 0 16
        [.bytes [1], .appendFrame] = .ok inplace ∧
      PacketsAgree 23 (.short ⟨5, .zero, repeatedConnectionId 0⟩) 0 16 regular inplace ∧
      LongEnough ⟨5, 1⟩ 16 regular := by
  constructor
  · obtain ⟨-, regular, inplace, hregular, hinplace, hagree, hlong⟩ :=
      @builders_agree 80 (.long ⟨300, .initial,
        ⟨.quicV1, repeatedConnectionId 0, repeatedConnectionId 8⟩, [5, 6]⟩) 7 16
        [.bytes [6, 0, 1, 9], .appendFrame] ⟨300, 2⟩ 22 [1, 2] rfl
        (fun header hheader => by cases hheader; decide) (by decide)
        ⟨show 4 ≤ 80 - 16 - 22 by decide, trivial, trivial⟩
        (fun _ _ => by decide)
    refine ⟨regular, inplace, hregular, hinplace, ?_, hagree, (hlong (.inl (by decide))).2⟩
    cases hregular
    cases hinplace
    decide
  · obtain ⟨-, regular, inplace, hregular, hinplace, hagree, hlong⟩ :=
      @builders_agree 23 (.short ⟨5, .zero, repeatedConnectionId 0⟩) 0 16 [.bytes [1], .appendFrame]
        ⟨5, 1⟩ 2 [] rfl (fun _ hheader => by cases hheader) (by decide)
        ⟨show 1 ≤ 23 - 16 - 2 by decide, trivial, trivial⟩ (fun _ _ => by decide)
    exact ⟨regular, inplace, hregular, hinplace, hagree, (hlong (.inl (by decide))).1⟩

/-- In place, a long header packet is built only if its length fits in two bytes. -/
theorem inplace_fits {before : Bytes} {limit : UInt32} {header : LongHeader}
    {largestAckedPacketNum : UInt64} {overhead : UInt8} {writes : List BuilderWrite}
    {packet : BuiltPacket} (hretry : header.longHeaderType ≠ .retry)
    (h : InplaceQuicPacketBuilder.build before limit (.long header) largestAckedPacketNum overhead
      writes = .ok packet) :
    (frameBytes writes).length + overhead.toNat ≤ kTwoByteLimit := by
  simp only [InplaceQuicPacketBuilder.build, except_bind_eq_ok] at h
  obtain ⟨started, hstart, written, hwrite, hbuild⟩ := h
  obtain ⟨encoding, bytes, space, hencode, hplan, -⟩ := InplaceQuicPacketBuilder.start_long hstart
  have hwritten := hplan.writes hwrite
  obtain ⟨padded, k, hpad, hpadded⟩ :=
    InplaceQuicPacketBuilder.padBody_of_buildPacket hwritten hbuild
  rw [InplaceQuicPacketBuilder.buildPacket_long hwritten hretry hpad hpadded, except_bind_eq_ok]
    at hbuild
  obtain ⟨lenBytes, hlen, -⟩ := hbuild
  obtain ⟨hle, -, -⟩ := encodePacketLength_varint hlen
  rw [List.length_append, List.nil_append, show writes.flatMap BuilderWrite.data =
    frameBytes writes from rfl] at hle
  omega

/-- The limits of the agreement: a header that is longer than the packet may be, a length that takes
more than two bytes, and a limit that leaves no room for the sample. -/
theorem builders_exceptions :
    ((∃ packet, RegularQuicPacketBuilder.build 40 (.long ⟨5, .handshake,
          ⟨.quicV1, repeatedConnectionId 20, repeatedConnectionId 20⟩, []⟩) 0 16 [] = .ok packet ∧
        packet.header.length + packet.body.length + 16 > 40) ∧
      InplaceQuicPacketBuilder.build [] 40 (.long ⟨5, .handshake,
          ⟨.quicV1, repeatedConnectionId 20, repeatedConnectionId 20⟩, []⟩) 0 16 [] =
        .error .check) ∧
    (∀ packet, InplaceQuicPacketBuilder.build [] 20000 (.long ⟨5, .handshake,
        ⟨.quicV1, repeatedConnectionId 8, repeatedConnectionId 8⟩, []⟩) 0 16
        [.bytes (List.replicate 17000 1), .appendFrame] ≠ .ok packet) ∧
    ∃ packet, RegularQuicPacketBuilder.build 20 (.short ⟨5, .zero, repeatedConnectionId 0⟩) 0 16
        [.bytes [1], .appendFrame] = .ok packet ∧ packet.isEmpty = false ∧
      ¬ LongEnough ⟨5, 1⟩ 16 packet := by
  refine ⟨⟨⟨_, rfl, by decide⟩, rfl⟩, ?_, _, rfl, rfl, ?_⟩
  · intro packet hbuilt
    have hfits := inplace_fits (by decide) hbuilt
    have hlength : (frameBytes [.bytes (List.replicate 17000 1), .appendFrame]).length = 17000 := by
      simp only [frameBytes, List.flatMap_cons, List.flatMap_nil, BuilderWrite.data,
        List.append_nil, List.length_replicate]
    rw [hlength] at hfits
    exact absurd hfits (by decide)
  · intro hlong
    exact absurd (hlong rfl) (by decide)

end MasqueQuic
