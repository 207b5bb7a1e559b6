/-
The capsule format, and what the parser makes of it.

`AddressFormat` and `RangeFormat` describe the entries, `PayloadFormat` the
payload of each kind of capsule and `CapsuleFormat` a whole capsule: the type,
the length of the payload and the payload. They are written from the format, not
from the parser; `reads_parseAddress` and `reads_parseRange` connect the two.

On a body that starts with a type and a length, `parseCapsule` reads everything
behind them as the payload, whatever the length says. `parseCapsule_chain_ok_iff`
says on which bodies it returns at all, and `parseCapsule_capsule_iff` which capsule
it returns.
-/

import MasqueQuic.Masque.Capsule

namespace MasqueQuic

/-! ### Entries -/

/-- The bytes of an address of the given version. -/
def IPFormat (version : UInt8) : Format UInt8 IPAddress := fun ip e =>
  (version = 4 ∧ ∃ a, ip = .v4 ⟨a⟩ ∧ e = a.val) ∨ (version ≠ 4 ∧ ∃ a, ip = .v6 ⟨a⟩ ∧ e = a.val)

/-- Request id, version, address, prefix length. -/
def AddressFormat : Format UInt8 Address := fun address e =>
  ∃ id version ip, Varint address.requestID id ∧ (version = 4 ∨ version = 6) ∧
    IPFormat version address.ipAddress.1 ip ∧ e = id ++ version :: ip ++ [address.ipAddress.2]

/-- Version, first address, last address, protocol. -/
def RangeFormat : Format UInt8 AddressRange := fun range e =>
  ∃ version startIP endIP protocol, (version = 4 ∨ version = 6) ∧
    IPFormat version range.startIP startIP ∧ IPFormat version range.endIP endIP ∧
    (protocol = 4 ∨ protocol = 6) ∧ e = version :: startIP ++ endIP ++ [protocol]

theorem reads_pullAddress (version : UInt8) : Reads (pullAddress version) (IPFormat version) := by
  unfold pullAddress
  split
  · rename_i h
    refine ((Reads.take _ 4).bind fun a => Reads.pure _).congr fun ip e => ?_
    simp only [IPFormat, h, true_and, ne_eq, not_true_eq_false, false_and, or_false]
    constructor
    · rintro ⟨a, e₁, e₂, rfl, ⟨rfl, rfl⟩, rfl⟩
      exact ⟨a, rfl, List.append_nil _⟩
    · rintro ⟨a, rfl, rfl⟩
      exact ⟨a, a.val, [], rfl, ⟨rfl, rfl⟩, (List.append_nil _).symm⟩
  · rename_i h
    refine ((Reads.take _ 16).bind fun a => Reads.pure _).congr fun ip e => ?_
    simp only [IPFormat, h, false_and, ne_eq, not_false_eq_true, true_and, false_or]
    constructor
    · rintro ⟨a, e₁, e₂, rfl, ⟨rfl, rfl⟩, rfl⟩
      exact ⟨a, rfl, List.append_nil _⟩
    · rintro ⟨a, rfl, rfl⟩
      exact ⟨a, a.val, [], rfl, ⟨rfl, rfl⟩, (List.append_nil _).symm⟩

/-- An address entry without its request id. -/
def AddressRestFormat (id : Nat) : Format UInt8 Address := fun address e =>
  ∃ version ip, address.requestID = id ∧ (version = 4 ∨ version = 6) ∧
    IPFormat version address.ipAddress.1 ip ∧ e = version :: ip ++ [address.ipAddress.2]

theorem reads_parseAddressRest (id width : Nat) :
    Reads (parseAddressRest (some (id, width))) (AddressRestFormat id) := by
  unfold parseAddressRest
  refine ((Reads.next _).bind fun version => (Reads.guard _ _).bind fun _ =>
    (reads_pullAddress version).bind fun ip => (Reads.next _).bind fun len =>
      Reads.pure _).congr fun address e => ?_
  constructor
  · rintro ⟨version, _, _, rfl, ⟨_, _, _, ⟨hversion, rfl⟩, ⟨ip, e₁, _, hip, ⟨len, _, _, rfl,
      ⟨rfl, rfl⟩, rfl⟩, rfl⟩, rfl⟩, rfl⟩
    exact ⟨version, e₁, rfl, by simpa using hversion, hip, by simp⟩
  · rintro ⟨version, ip, rfl, hversion, hip, rfl⟩
    obtain ⟨requestID, addr, len⟩ := address
    exact ⟨version, [version], _, rfl, ⟨(), [], _, ⟨by simpa using hversion, rfl⟩,
      ⟨addr, ip, _, hip, ⟨len, [len], [], rfl, ⟨rfl, rfl⟩, rfl⟩, rfl⟩, rfl⟩, by simp⟩

theorem parseAddress_of_decode {s : Bytes} {id width : Nat}
    (h : decodeQuicInteger s sizeofUint64 = some (id, width)) :
    parseAddress.run s = (parseAddressRest (some (id, width))).run (s.drop width) := by
  cases s with
  | nil => simp [decodeQuicInteger] at h
  | cons b r =>
    simp [parseAddress, Cursor.isAtEnd, Reader.isAtEnd, Cursor.check, Reader.guard,
      Cursor.decodeQuicInteger, StateT.run, bind, StateT.bind, Except.bind, h]

/-- Without a request id there is no entry: the byte that is then taken for the
version is at least 64. The empty optional is never looked at. -/
theorem parseAddress_of_decode_none {s : Bytes} (h : decodeQuicInteger s sizeofUint64 = none) :
    parseAddress.run s = .error .check := by
  cases s with
  | nil => rfl
  | cons b r =>
    have hb := first_byte_of_decode_none h
    have h4 : b ≠ 4 := by
      rintro rfl
      exact absurd hb (by decide)
    have h6 : b ≠ 6 := by
      rintro rfl
      exact absurd hb (by decide)
    simp [parseAddress, parseAddressRest, Cursor.isAtEnd, Reader.isAtEnd, Cursor.check,
      Reader.guard, Cursor.decodeQuicInteger, Cursor.read, Reader.next, StateT.run, bind,
      StateT.bind, Except.bind, h, h4, h6]

theorem reads_parseAddress : Reads parseAddress AddressFormat := by
  intro s address t
  constructor
  · intro hrun
    cases hdecode : decodeQuicInteger s sizeofUint64 with
    | none =>
      rw [parseAddress_of_decode_none hdecode] at hrun
      cases hrun
    | some result =>
      obtain ⟨id, width⟩ := result
      rw [parseAddress_of_decode hdecode] at hrun
      obtain ⟨x, u, hx, rfl, rfl⟩ := varint_of_decodeQuicInteger hdecode
      rw [List.drop_left] at hrun
      obtain ⟨e, ⟨version, ip, rfl, hversion, hip, rfl⟩, rfl⟩ :=
        (reads_parseAddressRest id x.length u address t).mp hrun
      exact ⟨_, ⟨x, version, ip, hx, hversion, hip, rfl⟩, by simp⟩
  · rintro ⟨e, ⟨x, version, ip, hx, hversion, hip, rfl⟩, rfl⟩
    have hsplit : x ++ version :: ip ++ [address.ipAddress.2] ++ t =
        x ++ ((version :: ip ++ [address.ipAddress.2]) ++ t) := by simp
    rw [hsplit, parseAddress_of_decode (decodeQuicInteger_append hx _), List.drop_left]
    exact (reads_parseAddressRest _ _ _ _ _).mpr ⟨_, ⟨version, ip, rfl, hversion, hip, rfl⟩, rfl⟩

theorem reads_parseRequestedAddress :
    Reads parseRequestedAddress (fun a e => AddressFormat a e ∧ a.requestID ≠ 0) := by
  unfold parseRequestedAddress
  refine (reads_parseAddress.bind fun a => (Reads.guard _ _).bind fun _ =>
    Reads.pure _).congr fun address e => ?_
  constructor
  · rintro ⟨a, e₁, _, ha, ⟨_, _, _, ⟨hid, rfl⟩, ⟨rfl, rfl⟩, rfl⟩, rfl⟩
    exact ⟨by simpa using ha, by simpa using hid⟩
  · rintro ⟨ha, hid⟩
    exact ⟨address, e, [], ha, ⟨(), [], [], ⟨by simpa using hid, rfl⟩, ⟨rfl, rfl⟩, rfl⟩, by simp⟩

theorem reads_parseRange : Reads parseRange RangeFormat := by
  unfold parseRange
  refine ((Reads.next _).bind fun version => (Reads.guard _ _).bind fun _ =>
    (reads_pullAddress version).bind fun a => (reads_pullAddress version).bind fun b =>
      (Reads.next _).bind fun protocol => (Reads.guard _ _).bind fun _ =>
        Reads.pure _).congr fun range e => ?_
  constructor
  · rintro ⟨version, _, _, rfl, ⟨_, _, _, ⟨hversion, rfl⟩, ⟨a, e₁, _, ha, ⟨b, e₂, _, hb,
      ⟨protocol, _, _, rfl, ⟨_, _, _, ⟨hprotocol, rfl⟩, ⟨rfl, rfl⟩, rfl⟩, rfl⟩, rfl⟩, rfl⟩, rfl⟩, rfl⟩
    exact ⟨version, e₁, e₂, protocol, by simpa using hversion, ha, hb, by simpa using hprotocol,
      by simp⟩
  · rintro ⟨version, e₁, e₂, protocol, hversion, ha, hb, hprotocol, rfl⟩
    obtain ⟨startIP, endIP⟩ := range
    exact ⟨version, [version], _, rfl, ⟨(), [], _, ⟨by simpa using hversion, rfl⟩,
      ⟨startIP, e₁, _, ha, ⟨endIP, e₂, _, hb, ⟨protocol, [protocol], [], rfl,
        ⟨(), [], [], ⟨by simpa using hprotocol, rfl⟩, ⟨rfl, rfl⟩, rfl⟩, rfl⟩, rfl⟩, rfl⟩, rfl⟩,
      by simp⟩

theorem AddressFormat.ne_nil {a : Address} {e : Bytes} (h : AddressFormat a e) : e ≠ [] := by
  obtain ⟨x, version, ip, -, -, -, rfl⟩ := h
  simp

theorem RangeFormat.ne_nil {r : AddressRange} {e : Bytes} (h : RangeFormat r e) : e ≠ [] := by
  obtain ⟨version, a, b, protocol, -, -, -, -, rfl⟩ := h
  simp

/-! ### Whole capsules -/

/-- The type of a capsule on the wire. -/
def CapsuleOf.wireType {δ : Type} : CapsuleOf δ → Nat
  | .unknown capsuleType => capsuleType
  | c => c.type.code

/-- The payload of a capsule. An unknown capsule has any payload. -/
def PayloadFormat : Format UInt8 (CapsuleOf Bytes)
  | .datagram data, p => ∃ contextID x, Varint contextID x ∧ p = x ++ data
  | .addressAssign addresses, p => Format.Many AddressFormat addresses p
  | .addressRequest addresses, p =>
      Format.Many AddressFormat addresses p ∧ addresses ≠ [] ∧ ∀ a ∈ addresses, a.requestID ≠ 0
  | .routeAdvertisement ranges, p =>
      Format.Many RangeFormat ranges p ∧ isSorted rangeLess ranges = true
  | .unknown capsuleType, _ => CapsuleType.ofCode capsuleType = .UNKNOWN

/-- Type, length of the payload, payload. -/
def CapsuleFormat : Format UInt8 (CapsuleOf Bytes) := fun c e =>
  ∃ t l p, Varint c.wireType t ∧ Varint p.length l ∧ PayloadFormat c p ∧ e = t ++ l ++ p

/-- `bs` starts with a type and a length, and `p` is everything behind them. -/
def HasHeader (bs : Bytes) (type : Nat) (p : Bytes) : Prop :=
  ∃ n t l, Varint type t ∧ Varint n l ∧ bs = t ++ l ++ p

theorem HasHeader.unique {bs p p' : Bytes} {type type' : Nat} (h : HasHeader bs type p)
    (h' : HasHeader bs type' p') : type = type' ∧ p = p' := by
  obtain ⟨n, t, l, ht, hl, rfl⟩ := h
  obtain ⟨n', t', l', ht', hl', heq⟩ := h'
  rw [List.append_assoc, List.append_assoc] at heq
  obtain ⟨rfl, rfl, htail⟩ := Reads.varint.prefix_unique ht ht' heq
  obtain ⟨-, -, rfl⟩ := Reads.varint.prefix_unique hl hl' htail
  exact ⟨rfl, rfl⟩

/-- The same values take the same bytes of a stream. -/
theorem PayloadFormat.unique {c : CapsuleOf Bytes} (hknown : c.type ≠ .UNKNOWN) {p p' x y : Bytes}
    (h : PayloadFormat c p) (h' : PayloadFormat c p') (heq : p ++ x = p' ++ y) : p = p' := by
  cases c with
  | datagram data =>
    obtain ⟨v, e, hv, rfl⟩ := h
    obtain ⟨v', e', hv', rfl⟩ := h'
    rw [List.append_assoc, List.append_assoc] at heq
    obtain ⟨-, rfl, -⟩ := Reads.varint.prefix_unique hv hv' heq
    rfl
  | addressAssign addresses => exact h.unique_of_values reads_parseAddress h' heq
  | addressRequest addresses => exact h.1.unique_of_values reads_parseAddress h'.1 heq
  | routeAdvertisement ranges => exact h.1.unique_of_values reads_parseRange h'.1 heq
  | unknown capsuleType => exact absurd rfl hknown

/-! ### The parser on a body -/

theorem parseCapsule_of_header {body : IOBuf} {type n : Nat} {t l p : Bytes} (ht : Varint type t)
    (hl : Varint n l) (hbody : body.bytes = t ++ l ++ p) :
    parseCapsule body =
      body.trimStart (t.length + l.length) >>= fun datagram => parsePayload datagram type p := by
  unfold parseCapsule
  rw [hbody, List.append_assoc, Cursor.decodeQuicInteger_append ht]
  simp only [bind, Except.bind]
  rw [Cursor.decodeQuicInteger_append hl]

/-- A body without a complete type and length is ignored. -/
theorem parseCapsule_of_no_header {body : IOBuf} (h : ∀ type p, ¬ HasHeader body.bytes type p) :
    parseCapsule body = .ok none := by
  cases htype : decodeQuicInteger body.bytes sizeofUint64 with
  | none =>
    simp [parseCapsule, Cursor.decodeQuicInteger, StateT.run, bind, Except.bind, htype, pure,
      Except.pure]
  | some result =>
    obtain ⟨type, width⟩ := result
    obtain ⟨t, u, ht, rfl, hbytes⟩ := varint_of_decodeQuicInteger htype
    cases hlength : decodeQuicInteger u sizeofUint64 with
    | none =>
      have hu : List.drop t.length body.bytes = u := by rw [hbytes, List.drop_left]
      simp [parseCapsule, Cursor.decodeQuicInteger, StateT.run, bind, Except.bind, htype, hu,
        hlength, pure, Except.pure]
    | some result =>
      obtain ⟨n, width⟩ := result
      obtain ⟨l, p, hl, -, rfl⟩ := varint_of_decodeQuicInteger hlength
      exact absurd ⟨n, t, l, ht, hl, by rw [hbytes, List.append_assoc]⟩ (h type p)

theorem trimStart_wrapBuffer (e p : Bytes) :
    (IOBuf.wrapBuffer (e ++ p)).trimStart e.length = .ok (.wrapBuffer p) := by
  simp [IOBuf.trimStart, IOBuf.wrapBuffer, IOBuf.length]

/-- On one contiguous buffer the payload is all the rest of it. -/
theorem parseCapsule_wrapBuffer {bs p : Bytes} {type : Nat} (h : HasHeader bs type p) :
    parseCapsule (.wrapBuffer bs) = parsePayload (.wrapBuffer p) type p := by
  obtain ⟨n, t, l, ht, hl, rfl⟩ := h
  rw [parseCapsule_of_header ht hl (IOBuf.bytes_wrapBuffer _), ← List.length_append,
    trimStart_wrapBuffer]
  rfl

/-- The payloads on which the branch of a type runs to its end. -/
def SafePayload (type : Nat) (p : Bytes) : Prop :=
  match CapsuleType.ofCode type with
  | .ADDRESS_ASSIGN => ∃ addresses, Format.Many AddressFormat addresses p
  | .ADDRESS_REQUEST => ∃ addresses,
      Format.Many AddressFormat addresses p ∧ addresses ≠ [] ∧ ∀ a ∈ addresses, a.requestID ≠ 0
  | .ROUTE_ADVERTISEMENT => ∃ ranges,
      Format.Many RangeFormat ranges p ∧ isSorted rangeLess ranges = true
  | _ => True

theorem all_parseAddress_iff {p : Bytes} {as : List Address} :
    parseAddress.all p = .ok as ↔ Format.Many AddressFormat as p :=
  readAll_iff reads_parseAddress (fun _ _ h => h.ne_nil) p as

theorem all_parseRequestedAddress_iff {p : Bytes} {as : List Address} :
    parseRequestedAddress.all p = .ok as ↔
      Format.Many AddressFormat as p ∧ ∀ a ∈ as, a.requestID ≠ 0 := by
  rw [readAll_iff reads_parseRequestedAddress (fun _ _ h => h.1.ne_nil) p as]
  exact Format.many_and_iff

theorem all_parseRange_iff {p : Bytes} {rs : List AddressRange} :
    parseRange.all p = .ok rs ↔ Format.Many RangeFormat rs p :=
  readAll_iff reads_parseRange (fun _ _ h => h.ne_nil) p rs

/-- Every branch of the `switch`: when it returns, and what. -/
theorem parsePayload_ok_iff {type : Nat} {p : Bytes} {r : Option Capsule} :
    parsePayload (.wrapBuffer p) type p = .ok r ↔
      match CapsuleType.ofCode type with
      | .DATA =>
          (r = none ∧ decodeQuicInteger p sizeofUint64 = none) ∨
            ∃ contextID x data, Varint contextID x ∧ p = x ++ data ∧
              r = some (.datagram (.wrapBuffer data))
      | .ADDRESS_ASSIGN => ∃ addresses, Format.Many AddressFormat addresses p ∧
          r = some (.addressAssign addresses)
      | .ADDRESS_REQUEST => ∃ addresses, (Format.Many AddressFormat addresses p ∧
          addresses ≠ [] ∧ ∀ a ∈ addresses, a.requestID ≠ 0) ∧ r = some (.addressRequest addresses)
      | .ROUTE_ADVERTISEMENT => ∃ ranges, (Format.Many RangeFormat ranges p ∧
          isSorted rangeLess ranges = true) ∧ r = some (.routeAdvertisement ranges)
      | .UNKNOWN => r = some (.unknown type) := by
  unfold parsePayload
  cases CapsuleType.ofCode type with
  | DATA =>
    cases hdecode : decodeQuicInteger p sizeofUint64 with
    | none =>
      simp only [Cursor.decodeQuicInteger, StateT.run, hdecode, bind, Except.bind, pure,
        Except.pure, Except.ok.injEq, and_true]
      constructor
      · rintro rfl
        exact .inl rfl
      · rintro (rfl | ⟨v, x, data, hx, rfl, rfl⟩)
        · rfl
        · rw [decodeQuicInteger_append hx] at hdecode
          cases hdecode
    | some result =>
      obtain ⟨v, width⟩ := result
      obtain ⟨x, data, hx, rfl, rfl⟩ := varint_of_decodeQuicInteger hdecode
      rw [Cursor.decodeQuicInteger_append hx]
      simp only [bind, Except.bind, trimStart_wrapBuffer, pure, Except.pure, Except.ok.injEq,
        reduceCtorEq, and_false, false_or]
      constructor
      · rintro rfl
        exact ⟨v, x, data, hx, rfl, rfl⟩
      · rintro ⟨v', x', data', hx', heq, rfl⟩
        obtain ⟨-, -, rfl⟩ := Reads.varint.prefix_unique hx hx' heq
        rfl
  | ADDRESS_ASSIGN =>
    simp only [except_bind_eq_ok, all_parseAddress_iff, pure, Except.pure, Except.ok.injEq]
    exact exists_congr fun as => and_congr_right fun _ => eq_comm
  | ADDRESS_REQUEST =>
    simp only [except_bind_eq_ok, all_parseRequestedAddress_iff, check_eq_ok, pure, Except.pure,
      Except.ok.injEq, Bool.not_eq_true', List.isEmpty_eq_false_iff]
    refine exists_congr fun as => ?_
    constructor
    · rintro ⟨⟨hmany, hid⟩, -, hne, rfl⟩
      exact ⟨⟨hmany, hne, hid⟩, rfl⟩
    · rintro ⟨⟨hmany, hne, hid⟩, rfl⟩
      exact ⟨⟨hmany, hid⟩, (), hne, rfl⟩
  | ROUTE_ADVERTISEMENT =>
    simp only [except_bind_eq_ok, all_parseRange_iff, check_eq_ok, pure, Except.pure,
      Except.ok.injEq]
    refine exists_congr fun rs => ?_
    constructor
    · rintro ⟨hmany, -, hsorted, rfl⟩
      exact ⟨⟨hmany, hsorted⟩, rfl⟩
    · rintro ⟨⟨hmany, hsorted⟩, rfl⟩
      exact ⟨hmany, (), hsorted, rfl⟩
  | UNKNOWN => simp [pure, Except.pure, eq_comm]

theorem parsePayload_safe_iff {type : Nat} {p : Bytes} :
    (∃ r, parsePayload (.wrapBuffer p) type p = .ok r) ↔ SafePayload type p := by
  simp only [parsePayload_ok_iff]
  unfold SafePayload
  cases CapsuleType.ofCode type with
  | DATA =>
    cases hdecode : decodeQuicInteger p sizeofUint64 with
    | none => simp
    | some result =>
      obtain ⟨x, data, hx, -, rfl⟩ := varint_of_decodeQuicInteger hdecode
      exact ⟨fun _ => trivial, fun _ => ⟨_, .inr ⟨_, x, data, hx, rfl, rfl⟩⟩⟩
  | ADDRESS_ASSIGN =>
    exact ⟨fun ⟨_, as, h, _⟩ => ⟨as, h⟩, fun ⟨as, h⟩ => ⟨_, as, h, rfl⟩⟩
  | ADDRESS_REQUEST =>
    exact ⟨fun ⟨_, as, h, _⟩ => ⟨as, h⟩, fun ⟨as, h⟩ => ⟨_, as, h, rfl⟩⟩
  | ROUTE_ADVERTISEMENT =>
    exact ⟨fun ⟨_, rs, h, _⟩ => ⟨rs, h⟩, fun ⟨rs, h⟩ => ⟨_, rs, h, rfl⟩⟩
  | UNKNOWN => simp

theorem CapsuleType.ofCode_wireType {c : CapsuleOf Bytes} {p : Bytes} (h : PayloadFormat c p) :
    CapsuleType.ofCode c.wireType = c.type := by
  cases c with
  | unknown capsuleType => exact h
  | _ => rfl

/-- A code other than the default is the code of its type. -/
theorem CapsuleType.code_ofCode {type : Nat} (h : CapsuleType.ofCode type ≠ .UNKNOWN) :
    (CapsuleType.ofCode type).code = type := by
  match type, h with
  | 0, _ => rfl
  | 1, _ => rfl
  | 2, _ => rfl
  | 3, _ => rfl
  | n + 4, h => exact absurd rfl h

/-- The parser returns a capsule exactly on its payload. -/
theorem parsePayload_capsule_iff {type : Nat} {p : Bytes} {c : Capsule} :
    parsePayload (.wrapBuffer p) type p = .ok (some c) ↔
      ∃ c' : CapsuleOf Bytes, c = c'.map .wrapBuffer ∧ type = c'.wireType ∧ PayloadFormat c' p := by
  rw [parsePayload_ok_iff]
  constructor
  · intro h
    have hcode : CapsuleType.ofCode type ≠ .UNKNOWN → (CapsuleType.ofCode type).code = type :=
      CapsuleType.code_ofCode
    cases htype : CapsuleType.ofCode type with
    | DATA =>
      rw [htype] at h hcode
      obtain ⟨hnone, -⟩ | ⟨v, x, data, hx, rfl, hc⟩ := h
      · cases hnone
      · cases hc
        exact ⟨.datagram data, rfl, (hcode (by decide)).symm, v, x, hx, rfl⟩
    | ADDRESS_ASSIGN =>
      rw [htype] at h hcode
      obtain ⟨as, hmany, hc⟩ := h
      cases hc
      exact ⟨.addressAssign as, rfl, (hcode (by decide)).symm, hmany⟩
    | ADDRESS_REQUEST =>
      rw [htype] at h hcode
      obtain ⟨as, hmany, hc⟩ := h
      cases hc
      exact ⟨.addressRequest as, rfl, (hcode (by decide)).symm, hmany⟩
    | ROUTE_ADVERTISEMENT =>
      rw [htype] at h hcode
      obtain ⟨rs, hmany, hc⟩ := h
      cases hc
      exact ⟨.routeAdvertisement rs, rfl, (hcode (by decide)).symm, hmany⟩
    | UNKNOWN =>
      rw [htype] at h
      cases h
      exact ⟨.unknown type, rfl, rfl, htype⟩
  · rintro ⟨c', rfl, rfl, hp⟩
    rw [CapsuleType.ofCode_wireType hp]
    cases c' with
    | datagram data =>
      obtain ⟨v, x, hx, rfl⟩ := hp
      exact .inr ⟨v, x, data, hx, rfl, rfl⟩
    | addressAssign as => exact ⟨as, hp, rfl⟩
    | addressRequest as => exact ⟨as, hp, rfl⟩
    | routeAdvertisement rs => exact ⟨rs, hp, rfl⟩
    | unknown capsuleType => rfl

/-- The bodies on which the parser returns: nothing behind a header that is
there can stop it. -/
def SafeBody (bs : Bytes) : Prop := ∀ type p, HasHeader bs type p → SafePayload type p

/-- Type and length lie in the head element, and so does the context id of a
DATA capsule: the parser trims them off the head. -/
def HeaderInHead (body : IOBuf) : Prop :=
  ∀ type n t l p, Varint type t → Varint n l → body.bytes = t ++ l ++ p →
    t.length + l.length ≤ body.length ∧
      (CapsuleType.ofCode type = .DATA → ∀ contextID x data, Varint contextID x → p = x ++ data →
        t.length + l.length + x.length ≤ body.length)

/-- A payload in any chain; only a DATA capsule looks at the elements. -/
theorem parsePayload_chain_ok_iff {datagram : IOBuf} {type : Nat} {p : Bytes} :
    (∃ r, parsePayload datagram type p = .ok r) ↔
      SafePayload type p ∧ (CapsuleType.ofCode type = .DATA →
        ∀ contextID x data, Varint contextID x → p = x ++ data → x.length ≤ datagram.length) := by
  by_cases hdata : CapsuleType.ofCode type = .DATA
  · have hsafe : SafePayload type p := by simp [SafePayload, hdata]
    simp only [hsafe, true_and, hdata, forall_true_left, parsePayload]
    cases hdecode : decodeQuicInteger p sizeofUint64 with
    | none =>
      simp only [Cursor.decodeQuicInteger, StateT.run, hdecode, bind, Except.bind, pure,
        Except.pure, Except.ok.injEq, exists_eq', true_iff]
      rintro contextID x data hx rfl
      rw [decodeQuicInteger_append hx] at hdecode
      cases hdecode
    | some result =>
      obtain ⟨contextID, width⟩ := result
      obtain ⟨x, data, hx, rfl, rfl⟩ := varint_of_decodeQuicInteger hdecode
      rw [Cursor.decodeQuicInteger_append hx]
      constructor
      · rintro ⟨r, hr⟩ contextID' x' data' hx' heq
        simp only [bind, Except.bind] at hr
        obtain ⟨-, rfl, -⟩ := Reads.varint.prefix_unique hx hx' heq
        cases htrim : datagram.trimStart x.length with
        | error fault =>
          rw [htrim] at hr
          cases hr
        | ok out => exact (IOBuf.trimStart_eq_ok.mp htrim).1
      · intro hlen
        obtain ⟨out, hout⟩ : ∃ out, datagram.trimStart x.length = .ok out :=
          ⟨_, IOBuf.trimStart_eq_ok.mpr ⟨hlen contextID x data hx rfl, rfl⟩⟩
        refine ⟨some (.datagram out), ?_⟩
        simp only [bind, Except.bind, hout]
        rfl
  · have hsame : parsePayload datagram type p = parsePayload (.wrapBuffer p) type p := by
      unfold parsePayload
      cases htype : CapsuleType.ofCode type with
      | DATA => exact absurd htype hdata
      | _ => rfl
    rw [hsame, parsePayload_safe_iff]
    simp [hdata]

/-- The bodies, in any chain, on which the parser returns. -/
theorem parseCapsule_chain_ok_iff {body : IOBuf} :
    (∃ r, parseCapsule body = .ok r) ↔ SafeBody body.bytes ∧ HeaderInHead body := by
  by_cases h : ∃ type p, HasHeader body.bytes type p
  · obtain ⟨type, p, n, t, l, ht, hl, hbody⟩ := h
    rw [parseCapsule_of_header ht hl hbody]
    -- Any header of these bytes is this one.
    have hunique : ∀ type' n' t' l' p', Varint type' t' → Varint n' l' →
        body.bytes = t' ++ l' ++ p' → type' = type ∧ t' = t ∧ l' = l ∧ p' = p := by
      intro type' n' t' l' p' ht' hl' hbody'
      rw [hbody, List.append_assoc, List.append_assoc] at hbody'
      obtain ⟨rfl, rfl, htail⟩ := Reads.varint.prefix_unique ht ht' hbody'
      obtain ⟨-, rfl, rfl⟩ := Reads.varint.prefix_unique hl hl' htail
      exact ⟨rfl, rfl, rfl, rfl⟩
    by_cases hle : t.length + l.length ≤ body.length
    · obtain ⟨out, hout⟩ : ∃ out, body.trimStart (t.length + l.length) = .ok out :=
        ⟨_, IOBuf.trimStart_eq_ok.mpr ⟨hle, rfl⟩⟩
      have hlen : out.length = body.length - (t.length + l.length) := by
        obtain ⟨-, rfl⟩ := IOBuf.trimStart_eq_ok.mp hout
        exact List.length_drop
      rw [hout]
      refine Iff.trans parsePayload_chain_ok_iff ⟨?_, ?_⟩
      · rintro ⟨hsafe, hcontext⟩
        constructor
        · rintro type' p' ⟨n', t', l', ht', hl', hbody'⟩
          obtain ⟨rfl, rfl, rfl, rfl⟩ := hunique type' n' t' l' p' ht' hl' hbody'
          exact hsafe
        · intro type' n' t' l' p' ht' hl' hbody'
          obtain ⟨rfl, rfl, rfl, rfl⟩ := hunique type' n' t' l' p' ht' hl' hbody'
          refine ⟨hle, fun hdata contextID x data hx hp => ?_⟩
          have hxlen := hcontext hdata contextID x data hx hp
          omega
      · rintro ⟨hsafe, hhead⟩
        refine ⟨hsafe type p ⟨n, t, l, ht, hl, hbody⟩, fun hdata contextID x data hx hp => ?_⟩
        have hxlen := (hhead type n t l p ht hl hbody).2 hdata contextID x data hx hp
        omega
    · have hfault : body.trimStart (t.length + l.length) = .error .trimStart := if_neg hle
      rw [hfault]
      constructor
      · rintro ⟨r, hr⟩
        cases hr
      · rintro ⟨-, hhead⟩
        exact absurd (hhead type n t l p ht hl hbody).1 hle
  · have hnone : ∀ type p, ¬ HasHeader body.bytes type p := fun type p hp => h ⟨type, p, hp⟩
    rw [parseCapsule_of_no_header hnone]
    refine ⟨fun _ => ⟨fun type p hp => absurd hp (hnone type p), ?_⟩, fun _ => ⟨none, rfl⟩⟩
    intro type n t l p ht hl hbody
    exact absurd ⟨n, t, l, ht, hl, hbody⟩ (hnone type p)

/-- The parser returns a capsule exactly on a header followed by its payload. -/
theorem parseCapsule_capsule_iff {bs : Bytes} {c : Capsule} :
    parseCapsule (.wrapBuffer bs) = .ok (some c) ↔
      ∃ c' : CapsuleOf Bytes, c = c'.map .wrapBuffer ∧
        ∃ p, HasHeader bs c'.wireType p ∧ PayloadFormat c' p := by
  constructor
  · intro hparse
    by_cases h : ∃ type p, HasHeader bs type p
    · obtain ⟨type, p, hp⟩ := h
      rw [parseCapsule_wrapBuffer hp] at hparse
      obtain ⟨c', rfl, rfl, hpayload⟩ := parsePayload_capsule_iff.mp hparse
      exact ⟨c', rfl, p, hp, hpayload⟩
    · have hnone : ∀ type p, ¬ HasHeader (IOBuf.wrapBuffer bs).bytes type p := by
        intro type p hp
        rw [IOBuf.bytes_wrapBuffer] at hp
        exact h ⟨type, p, hp⟩
      rw [parseCapsule_of_no_header hnone] at hparse
      cases hparse
  · rintro ⟨c', rfl, p, hp, hpayload⟩
    rw [parseCapsule_wrapBuffer hp]
    exact parsePayload_capsule_iff.mpr ⟨c', rfl, rfl, hpayload⟩

end MasqueQuic
