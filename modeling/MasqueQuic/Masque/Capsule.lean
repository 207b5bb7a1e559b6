/-
Capsules of the MASQUE server (`samples/masque/Capsule.h`, `Capsule.cpp`).

`CapsuleOf δ` is a capsule whose datagram payload is a `δ`: the program holds an
`IOBuf` chain there (`Capsule`), the format a byte string. `parseCapsule` and
`toBuffer` are translated as they stand. In particular the parser decodes the
capsule length and never uses its value, each loop runs to the end of the
buffer, the request id is decoded before the version check and only looked at
after it, and the encoder takes the length of the head element of the payload
chain.
-/

import MasqueQuic.Quic.BufAppender

namespace MasqueQuic

/-! ### Capsule values -/

inductive CapsuleType where
  | DATA | ADDRESS_ASSIGN | ADDRESS_REQUEST | ROUTE_ADVERTISEMENT | UNKNOWN
  deriving DecidableEq, Repr

/-- The enumerator values of `Capsule::Type`. -/
def CapsuleType.code : CapsuleType → Nat
  | .DATA => 0x0
  | .ADDRESS_ASSIGN => 0x01
  | .ADDRESS_REQUEST => 0x02
  | .ROUTE_ADVERTISEMENT => 0x03
  | .UNKNOWN => 0x04

/-- The `switch` over the decoded type; every other value takes the default. -/
def CapsuleType.ofCode : Nat → CapsuleType
  | 0x0 => .DATA
  | 0x01 => .ADDRESS_ASSIGN
  | 0x02 => .ADDRESS_REQUEST
  | 0x03 => .ROUTE_ADVERTISEMENT
  | _ => .UNKNOWN

/-- `Address::Address`: the network is an address with a prefix length. -/
structure Address where
  requestID : Nat
  ipAddress : IPAddress × UInt8
  deriving DecidableEq

/-- `Address::AddressRange`. -/
structure AddressRange where
  startIP : IPAddress
  endIP : IPAddress
  deriving DecidableEq

inductive CapsuleOf (δ : Type) where
  | datagram (data : δ)
  | addressAssign (addresses : List Address)
  | addressRequest (addresses : List Address)
  | routeAdvertisement (ranges : List AddressRange)
  | unknown (capsuleType : Nat)
  deriving DecidableEq

/-- A capsule of the program. -/
abbrev Capsule := CapsuleOf IOBuf

namespace CapsuleOf

variable {δ ε : Type}

def type : CapsuleOf δ → CapsuleType
  | datagram _ => .DATA
  | addressAssign _ => .ADDRESS_ASSIGN
  | addressRequest _ => .ADDRESS_REQUEST
  | routeAdvertisement _ => .ROUTE_ADVERTISEMENT
  | unknown _ => .UNKNOWN

/-- Another view of the datagram payload. -/
def map (f : δ → ε) : CapsuleOf δ → CapsuleOf ε
  | datagram data => datagram (f data)
  | addressAssign addresses => addressAssign addresses
  | addressRequest addresses => addressRequest addresses
  | routeAdvertisement ranges => routeAdvertisement ranges
  | unknown capsuleType => unknown capsuleType

end CapsuleOf

/-! ### Parsing -/

/-- The bytes of an address of the given version: four for IPv4, sixteen else. -/
def pullAddress (ipVersion : UInt8) : Cursor IPAddress :=
  if ipVersion = 4 then do
    let byteArray ← Cursor.pull 4
    return .v4 ⟨byteArray⟩
  else do
    let byteArray ← Cursor.pull 16
    return .v6 ⟨byteArray⟩

/-- What follows the request id of an address entry. -/
def parseAddressRest (requestID : Option (Nat × Nat)) : Cursor Address := do
  let ipVersion ← Cursor.read
  Cursor.check (ipVersion = 4 ∨ ipVersion = 6)
  let ipAddress ← pullAddress ipVersion
  let prefixLength ← Cursor.read
  match requestID with
  | none => throw .emptyOptional
  | some (id, _) => return ⟨id, ipAddress, prefixLength⟩

def parseAddress : Cursor Address := do
  Cursor.check (!(← Cursor.isAtEnd))
  let requestID ← Cursor.decodeQuicInteger
  parseAddressRest requestID

/-- The loop body of `ADDRESS_REQUEST`. -/
def parseRequestedAddress : Cursor Address := do
  let address ← parseAddress
  Cursor.check (address.requestID ≠ 0)
  return address

/-- The loop body of `ROUTE_ADVERTISEMENT`. -/
def parseRange : Cursor AddressRange := do
  let ipVersion ← Cursor.read
  Cursor.check (ipVersion = 4 ∨ ipVersion = 6)
  let ipAddressA ← pullAddress ipVersion
  let ipAddressB ← pullAddress ipVersion
  let protocol ← Cursor.read
  Cursor.check (protocol = 4 ∨ protocol = 6)
  return ⟨ipAddressA, ipAddressB⟩

/-- The comparison handed to `is_sorted`. -/
def rangeLess (rangeA rangeB : AddressRange) : Bool :=
  if rangeA.startIP.isV4 ≠ rangeB.startIP.isV4 then rangeA.startIP.isV4
  else if rangeA.startIP.version ≠ rangeB.startIP.version then
    rangeA.startIP.version < rangeB.startIP.version
  else rangeA.endIP.lt rangeB.startIP

/-- `std::is_sorted`: no element is less than the one before it. -/
def isSorted {α : Type} (less : α → α → Bool) : List α → Bool
  | a :: b :: rest => !less b a && isSorted less (b :: rest)
  | _ => true

/-- The branches of the `switch`. The cursor stands behind the capsule length,
`datagram` has been trimmed to the same place. -/
def parsePayload (datagram : IOBuf) (capsuleType : Nat) (cursor : Bytes) :
    Except Fault (Option Capsule) :=
  match CapsuleType.ofCode capsuleType with
  | .DATA => do
      let (contextID, _) ← Cursor.decodeQuicInteger.run cursor
      match contextID with
      | none => return none
      | some (_, contextWidth) => do
          let data ← datagram.trimStart contextWidth
          return some (.datagram data)
  | .ADDRESS_ASSIGN => do
      let addresses ← parseAddress.all cursor
      return some (.addressAssign addresses)
  | .ADDRESS_REQUEST => do
      let addresses ← parseRequestedAddress.all cursor
      check (!addresses.isEmpty)
      return some (.addressRequest addresses)
  | .ROUTE_ADVERTISEMENT => do
      let ranges ← parseRange.all cursor
      check (isSorted rangeLess ranges)
      return some (.routeAdvertisement ranges)
  | .UNKNOWN => return some (.unknown capsuleType)

/-- `Capsule::parseCapsule`; `none` is the null pointer. -/
def parseCapsule (datagram : IOBuf) : Except Fault (Option Capsule) := do
  let (capsuleType, cursor) ← Cursor.decodeQuicInteger.run datagram.bytes
  let (capsuleLength, cursor) ← Cursor.decodeQuicInteger.run cursor
  match capsuleType, capsuleLength with
  | some (type, typeWidth), some (_, lengthWidth) => do
      let datagram ← datagram.trimStart (typeWidth + lengthWidth)
      parsePayload datagram type cursor
  | _, _ => return none

/-! ### Encoding -/

section Encoding

variable (alloc : Nat → Nat)

/-- A fresh appender over an empty buffer. -/
def freshAppender : BufAppender := .ofBuf (.create (alloc 0)) 32

/-- Frame `data` as a capsule. The length written is that of the head element. -/
def toBuffer (data : IOBuf) (type : CapsuleType) : IOBuf :=
  let appender := (freshAppender alloc).writeQuicInteger alloc type.code
  let appender := appender.writeQuicInteger alloc data.length
  (appender.insert data).head

def Address.toBuffer (address : Address) : Except Fault IOBuf := do
  let appender := (freshAppender alloc).writeQuicInteger alloc address.requestID
  let appender := appender.writeBE alloc 1 address.ipAddress.1.version
  let ip ← address.ipAddress.1.asV4
  let appender := appender.writeBE alloc 4 ip.toLongHBO
  let appender := appender.writeBE alloc 1 address.ipAddress.2.toNat
  return appender.head

def AddressRange.toBuffer (range : AddressRange) : Except Fault IOBuf := do
  check (range.startIP.version = range.endIP.version)
  let appender := (freshAppender alloc).writeBE alloc 1 range.startIP.version
  let startIP ← range.startIP.asV4
  let appender := appender.writeBE alloc 4 startIP.toLong
  let endIP ← range.endIP.asV4
  let appender := appender.writeBE alloc 4 endIP.toLong
  let appender := appender.writeBE alloc 1 range.endIP.version
  return appender.head

/-- `for (const auto& item : items) appender.insert(item.toBuffer());` -/
def insertAll {α : Type} (itemToBuffer : α → Except Fault IOBuf) (items : List α) :
    Except Fault IOBuf := do
  let appender ← items.foldlM
    (fun appender item => do
      let buf ← itemToBuffer item
      return BufAppender.insert appender buf)
    (freshAppender alloc)
  return appender.head

/-- `Capsule::toBuffer`, for each kind of capsule. -/
def CapsuleOf.toBuffer : Capsule → Except Fault IOBuf
  | .datagram data => return MasqueQuic.toBuffer alloc data.clone .DATA
  | .addressAssign addresses => do
      let buf ← insertAll alloc (Address.toBuffer alloc) addresses
      return MasqueQuic.toBuffer alloc buf .ADDRESS_ASSIGN
  | .addressRequest addresses => do
      let buf ← insertAll alloc (Address.toBuffer alloc) addresses
      return MasqueQuic.toBuffer alloc buf .ADDRESS_REQUEST
  | .routeAdvertisement ranges => do
      let buf ← insertAll alloc (AddressRange.toBuffer alloc) ranges
      return MasqueQuic.toBuffer alloc buf .ROUTE_ADVERTISEMENT
  | .unknown _ => return MasqueQuic.toBuffer alloc (.create (alloc 0)) .UNKNOWN

end Encoding

end MasqueQuic
