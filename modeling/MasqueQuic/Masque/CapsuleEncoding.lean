/-
What the capsule encoder writes, and what the parser reads back.

* Address capsules survive the round trip.
* The range encoder writes the network-order word big-endian, which reverses the
  bytes of an address. Route advertisements survive exactly when every address
  reads the same in both directions.
* The length field counts the head element of the payload chain. It is right
  exactly when nothing is linked behind that element.
-/

import MasqueQuic.Masque.CapsuleFormat

namespace MasqueQuic

section Encoding

variable (alloc : Nat → Nat)

/-! ### Bytes of the encoders -/

theorem beBytes_one_toNat (b : UInt8) : beBytes 1 b.toNat = [b] := by
  simp [beBytes]

/-- The bytes of a framed payload: type, length of the head element, payload. -/
theorem bytes_toBuffer (data : IOBuf) (type : CapsuleType) :
    (toBuffer alloc data type).bytes =
      (encodeQuicInteger type.code).getD [] ++ (encodeQuicInteger data.length).getD [] ++
        data.bytes := by
  obtain ⟨h₁, hb₁⟩ := BufAppender.writeQuicInteger_spec alloc
    (BufAppender.atEnd_ofBuf_create (alloc 0) 32) type.code
  obtain ⟨-, hb₂⟩ := BufAppender.writeQuicInteger_spec alloc h₁ data.length
  simp only [toBuffer, freshAppender, BufAppender.bytes_insert, hb₂, hb₁]
  simp [BufAppender.ofBuf]

/-- The bytes of an address entry. A request id that does not fit is left out. -/
def addressBytes (id : Nat) (ip : IPAddressV4) (len : UInt8) : Bytes :=
  (encodeQuicInteger id).getD [] ++ 4 :: ip.addr.val ++ [len]

theorem Address.toBuffer_v4 (id : Nat) (ip : IPAddressV4) (len : UInt8) :
    ∃ buf, (Address.mk id (.v4 ip, len)).toBuffer alloc = .ok buf ∧
      buf.bytes = addressBytes id ip len := by
  obtain ⟨h₁, hb₁⟩ := BufAppender.writeQuicInteger_spec alloc
    (BufAppender.atEnd_ofBuf_create (alloc 0) 32) id
  obtain ⟨h₂, hb₂⟩ := BufAppender.writeBE_spec alloc h₁ 1 4
  obtain ⟨h₃, hb₃⟩ := BufAppender.writeBE_spec alloc h₂ 4 ip.toLongHBO
  obtain ⟨-, hb₄⟩ := BufAppender.writeBE_spec alloc h₃ 1 len.toNat
  refine ⟨_, rfl, ?_⟩
  simp only [freshAppender, IPAddress.version, hb₄, hb₃, hb₂, hb₁, ip.beBytes_toLongHBO,
    beBytes_one_toNat, addressBytes]
  simp [BufAppender.ofBuf, beBytes]

/-- Only IPv4 addresses are encoded. -/
theorem Address.isV4_of_toBuffer {address : Address} {buf : IOBuf}
    (h : address.toBuffer alloc = .ok buf) :
    ∃ id ip len, address = ⟨id, .v4 ip, len⟩ := by
  obtain ⟨id, ip, len⟩ := address
  simp only [Address.toBuffer, except_bind_eq_ok] at h
  obtain ⟨a, ha, -⟩ := h
  cases ip with
  | v4 ip => exact ⟨id, ip, len, rfl⟩
  | empty => cases ha
  | v6 ip => cases ha

/-- The bytes of a range entry: both addresses are reversed. -/
def rangeBytes (startIP endIP : IPAddressV4) : Bytes :=
  4 :: startIP.addr.val.reverse ++ endIP.addr.val.reverse ++ [4]

theorem AddressRange.toBuffer_v4 (startIP endIP : IPAddressV4) :
    ∃ buf, (AddressRange.mk (.v4 startIP) (.v4 endIP)).toBuffer alloc = .ok buf ∧
      buf.bytes = rangeBytes startIP endIP := by
  obtain ⟨h₁, hb₁⟩ := BufAppender.writeBE_spec alloc
    (BufAppender.atEnd_ofBuf_create (alloc 0) 32) 1 4
  obtain ⟨h₂, hb₂⟩ := BufAppender.writeBE_spec alloc h₁ 4 startIP.toLong
  obtain ⟨h₃, hb₃⟩ := BufAppender.writeBE_spec alloc h₂ 4 endIP.toLong
  obtain ⟨-, hb₄⟩ := BufAppender.writeBE_spec alloc h₃ 1 4
  refine ⟨_, rfl, ?_⟩
  simp only [freshAppender, IPAddress.version, hb₄, hb₃, hb₂, hb₁, IPAddressV4.beBytes_toLong,
    rangeBytes]
  simp [BufAppender.ofBuf, beBytes]

theorem AddressRange.isV4_of_toBuffer {range : AddressRange} {buf : IOBuf}
    (h : range.toBuffer alloc = .ok buf) :
    ∃ startIP endIP, range = ⟨.v4 startIP, .v4 endIP⟩ := by
  obtain ⟨startIP, endIP⟩ := range
  simp only [AddressRange.toBuffer, except_bind_eq_ok] at h
  obtain ⟨-, -, a, ha, b, hb, -⟩ := h
  cases startIP with
  | v4 a =>
    cases endIP with
    | v4 b => exact ⟨a, b, rfl⟩
    | empty => cases hb
    | v6 b => cases hb
  | empty => cases ha
  | v6 a => cases ha

/-! ### Linking the entries -/

section InsertAll

variable {α : Type} {itemToBuffer : α → Except Fault IOBuf} {enc : α → Bytes} {items : List α}

/-- One insertion after the other, starting from any appender. -/
theorem foldlM_insert (appender : BufAppender)
    (h : ∀ item ∈ items, ∃ buf, itemToBuffer item = .ok buf ∧ buf.bytes = enc item) :
    ∃ out : BufAppender,
      items.foldlM (fun appender item => do
        let buf ← itemToBuffer item
        return BufAppender.insert appender buf) appender = .ok out ∧
      out.head.length = appender.head.length ∧
      out.head.bytes = appender.head.bytes ++ items.flatMap enc := by
  induction items generalizing appender with
  | nil => exact ⟨appender, rfl, rfl, by simp⟩
  | cons item items ih =>
    obtain ⟨⟨buf, hbuf, hbytes⟩, hrest⟩ := List.forall_mem_cons.mp h
    obtain ⟨out, hout, hlen, hb⟩ := ih (appender.insert buf) hrest
    refine ⟨out, ?_, by simpa using hlen, by simp [hb, hbytes]⟩
    rw [List.foldlM_cons, hbuf]
    exact hout

theorem insertAll_spec
    (h : ∀ item ∈ items, ∃ buf, itemToBuffer item = .ok buf ∧ buf.bytes = enc item) :
    ∃ buf, insertAll alloc itemToBuffer items = .ok buf ∧ buf.length = 0 ∧
      buf.bytes = items.flatMap enc := by
  obtain ⟨out, hout, hlen, hbytes⟩ := foldlM_insert (freshAppender alloc) h
  refine ⟨out.head, ?_, hlen, hbytes⟩
  rw [insertAll, hout]
  rfl

/-- If every entry was linked, every entry was encoded. -/
theorem items_of_insertAll {buf : IOBuf} (h : insertAll alloc itemToBuffer items = .ok buf) :
    ∀ item ∈ items, ∃ b, itemToBuffer item = .ok b := by
  simp only [insertAll, except_bind_eq_ok] at h
  obtain ⟨out, hfold, -⟩ := h
  generalize freshAppender alloc = appender at hfold
  induction items generalizing appender with
  | nil => simp
  | cons item items ih =>
    simp only [List.foldlM_cons, except_bind_eq_ok] at hfold
    obtain ⟨next, ⟨b, hb, -⟩, hrest⟩ := hfold
    exact List.forall_mem_cons.mpr ⟨⟨b, hb⟩, ih next hrest⟩

end InsertAll

/-- An empty head element declares a payload of length 0. -/
theorem bytes_toBuffer_of_empty_head {data : IOBuf} (h : data.length = 0) (type : CapsuleType) :
    (toBuffer alloc data type).bytes =
      UInt8.ofNat type.code :: 0 :: data.bytes := by
  rw [bytes_toBuffer, h]
  cases type <;> rfl

theorem varint_code (type : CapsuleType) : Varint type.code [UInt8.ofNat type.code] := by
  cases type <;> exact ⟨0, by decide, rfl, by decide, by decide⟩

theorem varint_zero : Varint 0 [0] := ⟨0, by decide, rfl, by decide, by decide⟩

/-- A capsule that declares length 0 is a header, then all its payload. -/
theorem hasHeader_of_empty_head {data : IOBuf} (h : data.length = 0) (type : CapsuleType) :
    HasHeader (toBuffer alloc data type).bytes type.code data.bytes := by
  rw [bytes_toBuffer_of_empty_head alloc h]
  exact ⟨0, _, _, varint_code type, varint_zero, rfl⟩

/-! ### Address capsules -/

/-- The bytes written for an address; nothing is written for one that is not IPv4. -/
def Address.wireBytes : Address → Bytes
  | ⟨id, .v4 ip, len⟩ => addressBytes id ip len
  | _ => []

theorem Address.toBuffer_wireBytes {address : Address} (hv4 : address.ipAddress.1.isV4 = true) :
    ∃ buf, address.toBuffer alloc = .ok buf ∧ buf.bytes = address.wireBytes := by
  obtain ⟨id, ip, len⟩ := address
  cases ip with
  | v4 ip => exact Address.toBuffer_v4 alloc id ip len
  | empty => cases hv4
  | v6 ip => cases hv4

theorem Address.wireBytes_format {address : Address} (hv4 : address.ipAddress.1.isV4 = true)
    (hid : address.requestID < 2 ^ 62) : AddressFormat address address.wireBytes := by
  obtain ⟨id, ip, len⟩ := address
  obtain ⟨x, hx⟩ := encodeQuicInteger_of_lt hid
  cases ip with
  | v4 ip =>
    refine ⟨x, 4, ip.addr.val, encodeQuicInteger_varint hx, .inl rfl, .inl ⟨rfl, _, rfl, rfl⟩, ?_⟩
    simp [Address.wireBytes, addressBytes, hx]
  | empty => cases hv4
  | v6 ip => cases hv4

/-- The payload written for a list of IPv4 addresses. -/
theorem addresses_payload {addresses : List Address}
    (hv4 : ∀ a ∈ addresses, a.ipAddress.1.isV4 = true)
    (hid : ∀ a ∈ addresses, a.requestID < 2 ^ 62) :
    ∃ buf, insertAll alloc (Address.toBuffer alloc) addresses = .ok buf ∧ buf.length = 0 ∧
      Format.Many AddressFormat addresses buf.bytes := by
  obtain ⟨buf, hbuf, hlen, hbytes⟩ :=
    insertAll_spec alloc fun a ha => Address.toBuffer_wireBytes alloc (hv4 a ha)
  refine ⟨buf, hbuf, hlen, ?_⟩
  rw [hbytes]
  exact Format.Many.of_map fun a ha => Address.wireBytes_format (hv4 a ha) (hid a ha)

/-- Encoding and parsing an address capsule gives the same list back. -/
theorem addressCapsules_roundTrip (addresses : List Address)
    (hv4 : ∀ a ∈ addresses, a.ipAddress.1.isV4 = true)
    (hid : ∀ a ∈ addresses, a.requestID < 2 ^ 62) :
    (∃ out, (CapsuleOf.addressAssign addresses).toBuffer alloc = .ok out ∧
        parseCapsule (.wrapBuffer out.bytes) = .ok (some (.addressAssign addresses))) ∧
      (addresses ≠ [] → (∀ a ∈ addresses, a.requestID ≠ 0) →
        ∃ out, (CapsuleOf.addressRequest addresses).toBuffer alloc = .ok out ∧
          parseCapsule (.wrapBuffer out.bytes) = .ok (some (.addressRequest addresses))) := by
  obtain ⟨buf, hbuf, hlen, hmany⟩ := addresses_payload alloc hv4 hid
  constructor
  · refine ⟨toBuffer alloc buf .ADDRESS_ASSIGN, by rw [CapsuleOf.toBuffer, hbuf]; rfl, ?_⟩
    exact parseCapsule_capsule_iff.mpr
      ⟨.addressAssign addresses, rfl, buf.bytes, hasHeader_of_empty_head alloc hlen _, hmany⟩
  · intro hne hnonzero
    refine ⟨toBuffer alloc buf .ADDRESS_REQUEST, by rw [CapsuleOf.toBuffer, hbuf]; rfl, ?_⟩
    exact parseCapsule_capsule_iff.mpr ⟨.addressRequest addresses, rfl, buf.bytes,
      hasHeader_of_empty_head alloc hlen _, hmany, hne, hnonzero⟩

/-- A request for two addresses, under ids that take one byte and four. -/
theorem addressRequest_roundTrip_example :
    ∃ out, (CapsuleOf.addressRequest [⟨5, .v4 (.ofOctets 10 0 0 1), 32⟩,
        ⟨70000, .v4 (.ofOctets 10 0 0 2), 24⟩]).toBuffer id = .ok out ∧
      parseCapsule (.wrapBuffer out.bytes) = .ok (some (.addressRequest
        [⟨5, .v4 (.ofOctets 10 0 0 1), 32⟩, ⟨70000, .v4 (.ofOctets 10 0 0 2), 24⟩])) :=
  (addressCapsules_roundTrip id [⟨5, .v4 (.ofOctets 10 0 0 1), 32⟩,
    ⟨70000, .v4 (.ofOctets 10 0 0 2), 24⟩] (by decide) (by decide)).2 (by decide) (by decide)

/-! ### Route advertisements -/

/-- An IPv4 range, from its first to its last address. -/
abbrev RangeV4 := IPAddressV4 × IPAddressV4

def RangeV4.toRange (r : RangeV4) : AddressRange := ⟨.v4 r.1, .v4 r.2⟩

/-- Ranges are not empty, and each ends before the next ones start. -/
def SortedDisjoint (ranges : List RangeV4) : Prop :=
  (∀ r ∈ ranges, r.1.toLongHBO ≤ r.2.toLongHBO) ∧
    ranges.Pairwise fun r s => r.2.toLongHBO < s.1.toLongHBO

instance (ranges : List RangeV4) : Decidable (SortedDisjoint ranges) := by
  unfold SortedDisjoint; infer_instance

/-- The address with its bytes in reverse. -/
def IPAddressV4.reverse (ip : IPAddressV4) : IPAddressV4 :=
  ⟨⟨ip.addr.val.reverse, by rw [List.length_reverse, ip.addr.property]⟩⟩

/-- What a range is read back as. -/
def RangeV4.reversed (r : RangeV4) : RangeV4 := (r.1.reverse, r.2.reverse)

theorem rangeBytes_format (r : RangeV4) :
    RangeFormat r.reversed.toRange (rangeBytes r.1 r.2) :=
  ⟨4, _, _, 4, .inl rfl, .inl ⟨rfl, _, rfl, rfl⟩, .inl ⟨rfl, _, rfl, rfl⟩, .inl rfl, rfl⟩

/-- `is_sorted` accepts a list no element of which is less than an earlier one. -/
theorem isSorted_of_pairwise {α : Type} {less : α → α → Bool} {as : List α}
    (h : as.Pairwise fun a b => less b a = false) : isSorted less as = true := by
  induction as with
  | nil => rfl
  | cons a as ih =>
    cases as with
    | nil => rfl
    | cons b as =>
      obtain ⟨hhead, htail⟩ := List.pairwise_cons.mp h
      simp [isSorted, hhead b List.mem_cons_self, ih htail]

/-- Sorted, disjoint ranges pass the check of the parser. -/
theorem SortedDisjoint.isSorted {ranges : List RangeV4} (h : SortedDisjoint ranges) :
    MasqueQuic.isSorted rangeLess (ranges.map RangeV4.toRange) = true := by
  apply isSorted_of_pairwise
  rw [List.pairwise_map]
  refine h.2.imp_of_mem fun {r s} hr hs hlt => ?_
  have hr := h.1 r hr
  have hs := h.1 s hs
  simp only [rangeLess, RangeV4.toRange, IPAddress.isV4, IPAddress.version, ne_eq,
    not_true_eq_false, if_false, IPAddress.lt, decide_eq_false_iff_not]
  omega

theorem RangeV4.toRange_injective : Function.Injective RangeV4.toRange := by
  rintro ⟨a, b⟩ ⟨c, d⟩ heq
  simpa [RangeV4.toRange] using heq

/-- The bytes written for a range; nothing is written for one that is not IPv4. -/
def AddressRange.wireBytes : AddressRange → Bytes
  | ⟨.v4 startIP, .v4 endIP⟩ => rangeBytes startIP endIP
  | _ => []

/-- The payload written for a list of IPv4 ranges: a list of other ranges. -/
theorem ranges_payload (ranges : List RangeV4) :
    ∃ buf, insertAll alloc (AddressRange.toBuffer alloc) (ranges.map RangeV4.toRange) = .ok buf ∧
      buf.length = 0 ∧
      Format.Many RangeFormat ((ranges.map RangeV4.reversed).map RangeV4.toRange) buf.bytes := by
  have hitems : ∀ range ∈ ranges.map RangeV4.toRange, ∃ buf,
      range.toBuffer alloc = .ok buf ∧ buf.bytes = range.wireBytes := by
    intro range hrange
    obtain ⟨r, -, rfl⟩ := List.mem_map.mp hrange
    exact AddressRange.toBuffer_v4 alloc r.1 r.2
  obtain ⟨buf, hbuf, hlen, hbytes⟩ := insertAll_spec alloc hitems
  refine ⟨buf, hbuf, hlen, ?_⟩
  rw [hbytes, List.flatMap_map]
  clear hbytes hbuf hitems
  induction ranges with
  | nil => exact .nil
  | cons r ranges ih => exact .cons (rangeBytes_format r) ih

theorem RangeV4.reversed_eq_iff (r : RangeV4) :
    r.reversed = r ↔
      r.1.addr.val.reverse = r.1.addr.val ∧ r.2.addr.val.reverse = r.2.addr.val := by
  obtain ⟨⟨⟨a, ha⟩⟩, ⟨⟨b, hb⟩⟩⟩ := r
  simp [RangeV4.reversed, IPAddressV4.reverse]

theorem map_reversed_eq_iff {ranges : List RangeV4} :
    ranges.map RangeV4.reversed = ranges ↔
      ∀ r ∈ ranges, r.1.addr.val.reverse = r.1.addr.val ∧ r.2.addr.val.reverse = r.2.addr.val := by
  have hid := List.map_inj_left (f := RangeV4.reversed) (g := id) (l := ranges)
  rw [List.map_id] at hid
  simp only [hid, id_eq, RangeV4.reversed_eq_iff]

/-- A route advertisement is read back as it was exactly when reversing the bytes
of its addresses changes none of them. -/
theorem routeAdvertisement_roundTrip_iff (ranges : List RangeV4) (hranges : SortedDisjoint ranges) :
    (∃ out, (CapsuleOf.routeAdvertisement (ranges.map RangeV4.toRange)).toBuffer alloc = .ok out ∧
        parseCapsule (.wrapBuffer out.bytes) =
          .ok (some (.routeAdvertisement (ranges.map RangeV4.toRange)))) ↔
      ∀ r ∈ ranges, r.1.addr.val.reverse = r.1.addr.val ∧ r.2.addr.val.reverse = r.2.addr.val := by
  obtain ⟨buf, hbuf, hlen, hmany⟩ := ranges_payload alloc ranges
  have hout : (CapsuleOf.routeAdvertisement (ranges.map RangeV4.toRange)).toBuffer alloc =
      .ok (toBuffer alloc buf .ROUTE_ADVERTISEMENT) := by
    rw [CapsuleOf.toBuffer, hbuf]
    rfl
  have hheader := hasHeader_of_empty_head alloc hlen .ROUTE_ADVERTISEMENT
  constructor
  · rintro ⟨out, hok, hparse⟩
    rw [hout] at hok
    cases hok
    obtain ⟨c, hc, p, hp, hpayload⟩ := parseCapsule_capsule_iff.mp hparse
    cases c with
    | routeAdvertisement ranges' =>
      cases hc
      obtain ⟨-, rfl⟩ := hheader.unique hp
      have hsame := hmany.values_unique reads_parseRange (fun _ _ h => h.ne_nil) hpayload.1
      exact map_reversed_eq_iff.mp
        (List.map_injective_iff.mpr RangeV4.toRange_injective hsame)
    | _ => cases hc
  · intro hpal
    rw [map_reversed_eq_iff.mpr hpal] at hmany
    exact ⟨_, hout, parseCapsule_capsule_iff.mpr
      ⟨.routeAdvertisement _, rfl, buf.bytes, hheader, hmany, hranges.isSorted⟩⟩

/-- The range the server advertises is made of two such addresses. -/
theorem routeAdvertisement_all_roundTrip :
    ∃ out, (CapsuleOf.routeAdvertisement
        [RangeV4.toRange (.ofOctets 0 0 0 0, .ofOctets 255 255 255 255)]).toBuffer id = .ok out ∧
      parseCapsule (.wrapBuffer out.bytes) = .ok (some (.routeAdvertisement
        [RangeV4.toRange (.ofOctets 0 0 0 0, .ofOctets 255 255 255 255)])) :=
  (routeAdvertisement_roundTrip_iff id [(.ofOctets 0 0 0 0, .ofOctets 255 255 255 255)]
    (by decide)).mpr (by decide)

/-- `10.0.0.1 - 10.0.0.1` is read back as `1.0.0.10 - 1.0.0.10`. -/
theorem routeAdvertisement_roundTrip_fails :
    SortedDisjoint [(.ofOctets 10 0 0 1, .ofOctets 10 0 0 1)] ∧
      ¬ ∃ out, (CapsuleOf.routeAdvertisement
          [RangeV4.toRange (.ofOctets 10 0 0 1, .ofOctets 10 0 0 1)]).toBuffer id = .ok out ∧
        parseCapsule (.wrapBuffer out.bytes) = .ok (some (.routeAdvertisement
          [RangeV4.toRange (.ofOctets 10 0 0 1, .ofOctets 10 0 0 1)])) := by
  refine ⟨by decide, ?_⟩
  rintro ⟨out, hout, hparse⟩
  cases hout
  revert hparse
  decide

/-! ### The declared length -/

/-- A type, then the number of bytes that follow the length, then these bytes. -/
def DeclaresLength (type : CapsuleType) (bs : Bytes) : Prop :=
  ∃ t l p, Varint type.code t ∧ Varint p.length l ∧ bs = t ++ l ++ p

/-- Nothing of the payload is linked behind its head element. -/
def CapsuleOf.PayloadInHead : Capsule → Prop
  | .datagram data => data.computeChainDataLength = data.length
  | .addressAssign addresses => addresses = []
  | .addressRequest addresses => addresses = []
  | .routeAdvertisement ranges => ranges = []
  | .unknown _ => True

/-- The length is right exactly when it is the encoding of the payload's length. -/
theorem declaresLength_iff {type : CapsuleType} {n : Nat} {l p : Bytes} (hl : Varint n l) :
    DeclaresLength type (UInt8.ofNat type.code :: l ++ p) ↔ n = p.length := by
  constructor
  · rintro ⟨t', l', p', ht', hl', heq⟩
    rw [List.append_assoc] at heq
    obtain ⟨-, rfl, htail⟩ := Reads.varint.prefix_unique (varint_code type) ht' heq
    obtain ⟨rfl, -, rfl⟩ := Reads.varint.prefix_unique hl hl' htail
    rfl
  · rintro rfl
    exact ⟨_, l, p, varint_code type, hl, rfl⟩

/-- The linked entries all count as payload, and none of them in the length. -/
theorem declaresLength_of_empty_head {data : IOBuf} (h : data.length = 0) (type : CapsuleType) :
    DeclaresLength type (toBuffer alloc data type).bytes ↔ data.bytes = [] := by
  rw [bytes_toBuffer_of_empty_head alloc h]
  refine (declaresLength_iff varint_zero).trans ?_
  rw [eq_comm]
  exact List.length_eq_zero_iff

theorem wireBytes_ne_nil_of_toBuffer {address : Address} {buf : IOBuf}
    (h : address.toBuffer alloc = .ok buf) : buf.bytes ≠ [] := by
  obtain ⟨id, ip, len, rfl⟩ := Address.isV4_of_toBuffer alloc h
  obtain ⟨buf', h', hbytes⟩ := Address.toBuffer_v4 alloc id ip len
  rw [h] at h'
  cases h'
  simp [hbytes, addressBytes]

theorem rangeBytes_ne_nil_of_toBuffer {range : AddressRange} {buf : IOBuf}
    (h : range.toBuffer alloc = .ok buf) : buf.bytes ≠ [] := by
  obtain ⟨startIP, endIP, rfl⟩ := AddressRange.isV4_of_toBuffer alloc h
  obtain ⟨buf', h', hbytes⟩ := AddressRange.toBuffer_v4 alloc startIP endIP
  rw [h] at h'
  cases h'
  simp [hbytes, rangeBytes]

/-- A capsule of linked entries declares its length exactly when it has none. -/
theorem insertAll_declaresLength_iff {α : Type} {itemToBuffer : α → Except Fault IOBuf}
    (hne : ∀ item buf, itemToBuffer item = .ok buf → buf.bytes ≠ []) (items : List α)
    (type : CapsuleType) :
    (∃ out, (do
        let buf ← insertAll alloc itemToBuffer items
        return toBuffer alloc buf type) = .ok out ∧ DeclaresLength type out.bytes) ↔ items = [] := by
  constructor
  · rintro ⟨out, hout, hlength⟩
    rw [except_bind_eq_ok] at hout
    obtain ⟨buf, hbuf, hbuffer⟩ := hout
    cases hbuffer
    have hall := items_of_insertAll alloc hbuf
    have hitems : ∀ item ∈ items, ∃ b, itemToBuffer item = .ok b ∧
        b.bytes = ((itemToBuffer item).toOption.map IOBuf.bytes).getD [] := by
      intro item hitem
      obtain ⟨b, hb⟩ := hall item hitem
      exact ⟨b, hb, by simp [hb, Except.toOption]⟩
    obtain ⟨buf', hbuf', hlen, hbytes⟩ := insertAll_spec alloc hitems
    rw [hbuf] at hbuf'
    cases hbuf'
    have hnil := (declaresLength_of_empty_head alloc hlen type).mp hlength
    rw [hbytes, List.flatMap_eq_nil_iff] at hnil
    cases items with
    | nil => rfl
    | cons item items =>
      obtain ⟨b, hb, hbb⟩ := hitems item List.mem_cons_self
      rw [hnil item List.mem_cons_self] at hbb
      exact absurd hbb (hne item b hb)
  · rintro rfl
    exact ⟨_, rfl, (declaresLength_of_empty_head alloc rfl type).mpr rfl⟩

/-- A datagram capsule declares the head element of its chain. -/
theorem datagram_declaresLength_iff {data : IOBuf} (hmem : data.length < 2 ^ 62) :
    DeclaresLength .DATA (toBuffer alloc data.clone .DATA).bytes ↔
      data.computeChainDataLength = data.length := by
  obtain ⟨l, hl⟩ := encodeQuicInteger_of_lt hmem
  have hbytes : (toBuffer alloc data.clone .DATA).bytes =
      UInt8.ofNat CapsuleType.DATA.code :: l ++ data.bytes := by
    rw [bytes_toBuffer, IOBuf.length_clone, IOBuf.bytes_clone, hl]
    rfl
  rw [hbytes, declaresLength_iff (encodeQuicInteger_varint hl), ← IOBuf.length_bytes, eq_comm]

/-- The declared length is the length of the payload exactly when the payload
lies in the head element; with entries linked behind it, never. -/
theorem toBuffer_declaresLength_iff (c : Capsule)
    (hmem : ∀ data, c = .datagram data → data.length < 2 ^ 62) :
    (∃ out, c.toBuffer alloc = .ok out ∧ DeclaresLength c.type out.bytes) ↔ c.PayloadInHead := by
  cases c with
  | datagram data =>
    rw [CapsuleOf.PayloadInHead, ← datagram_declaresLength_iff alloc (hmem data rfl)]
    constructor
    · rintro ⟨out, hout, hlength⟩
      cases hout
      exact hlength
    · intro hlength
      exact ⟨_, rfl, hlength⟩
  | addressAssign addresses =>
    exact insertAll_declaresLength_iff alloc
      (fun _ _ h => wireBytes_ne_nil_of_toBuffer alloc h) addresses .ADDRESS_ASSIGN
  | addressRequest addresses =>
    exact insertAll_declaresLength_iff alloc
      (fun _ _ h => wireBytes_ne_nil_of_toBuffer alloc h) addresses .ADDRESS_REQUEST
  | routeAdvertisement ranges =>
    exact insertAll_declaresLength_iff alloc
      (fun _ _ h => rangeBytes_ne_nil_of_toBuffer alloc h) ranges .ROUTE_ADVERTISEMENT
  | unknown capsuleType =>
    exact ⟨fun _ => trivial,
      fun _ => ⟨_, rfl, (declaresLength_of_empty_head alloc rfl .UNKNOWN).mpr rfl⟩⟩

/-- A contiguous datagram payload is declared in full. -/
theorem datagram_declaresLength_example :
    ∃ out, (CapsuleOf.datagram (.wrapBuffer [0, 0x45])).toBuffer id = .ok out ∧
      DeclaresLength .DATA out.bytes :=
  (toBuffer_declaresLength_iff id (.datagram (.wrapBuffer [0, 0x45])) (by
    rintro data h
    cases h
    decide)).mpr rfl

/-- One address: nothing is declared, and seven bytes follow. -/
theorem addressAssign_declaresLength_fails :
    ¬ ∃ out, (CapsuleOf.addressAssign [⟨0, .v4 (.ofOctets 10 0 0 1), 32⟩]).toBuffer id = .ok out ∧
      DeclaresLength .ADDRESS_ASSIGN out.bytes := by
  intro h
  have hempty := (insertAll_declaresLength_iff id
    (fun _ _ h => wireBytes_ne_nil_of_toBuffer id h) _ .ADDRESS_ASSIGN).mp h
  cases hempty

end Encoding

end MasqueQuic
