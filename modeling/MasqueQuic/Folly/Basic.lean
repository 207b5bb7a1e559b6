/-
What the program uses of folly and of the C++ runtime: the ways a callback can
stop the process, and IP addresses.

Every callback modelled here is `noexcept`, so a `CHECK` that fails, an exception
that leaves a call and a contract violation of a container all end in the same
way: the process stops. `Fault` names the reason. A modelled function that can
stop returns `Except Fault`.

Addresses keep their bytes in network order. `toLong` is the network-order word
as a little-endian host loads it, `toLongHBO` the host-order value; the two
differ by a byte swap.
-/

import MasqueQuic.Lib.BigEndian

namespace MasqueQuic

/-- Why the process stops. -/
inductive Fault where
  | check            -- a `CHECK` fails
  | cursorEnd        -- `io::Cursor` `read` or `pull` past the end
  | emptyOptional    -- `->` on an empty `Optional`
  | trimStart        -- `IOBuf::trimStart` by more than `length()`
  | mapAt            -- `at` of a key that is not in the map
  | variantAccess    -- `std::get` of an alternative that is not held
  | invalidArgument  -- `std::stoi` finds no digits
  | outOfRange       -- `std::stoi` leaves the range of `int`
  | addressFormat    -- `IPAddress(string)` does not parse
  | addressFamily    -- `asV4` of an address that is not IPv4
  | connectFailed    -- `AsyncUDPSocket::connect` throws
  | nullCallback     -- a null callback pointer is called
  deriving DecidableEq, Repr

/-- `CHECK(p)`. -/
def check (p : Bool) : Except Fault Unit := if p then .ok () else .error .check

theorem check_eq_ok {p : Bool} {u : Unit} : check p = .ok u ↔ p = true := by
  cases p <;> simp [check]

/-- A byte array of fixed size (`ByteArray4`, `ByteArray16`). -/
abbrev ByteArrayN (n : Nat) := { bs : Bytes // bs.length = n }

/-! ### IP addresses -/

/-- An IPv4 address, in network order. -/
structure IPAddressV4 where
  addr : ByteArrayN 4
  deriving DecidableEq

/-- An IPv6 address, in network order. -/
structure IPAddressV6 where
  addr : ByteArrayN 16
  deriving DecidableEq

namespace IPAddressV4

/-- The host-order value. -/
def toLongHBO (ip : IPAddressV4) : Nat := beNat ip.addr.val

/-- The network-order word, as a little-endian host reads it. -/
def toLong (ip : IPAddressV4) : Nat := beNat ip.addr.val.reverse

def fromLongHBO (value : Nat) : IPAddressV4 := ⟨⟨beBytes 4 value, length_beBytes 4 value⟩⟩

/-- The address `a.b.c.d`. -/
def ofOctets (a b c d : UInt8) : IPAddressV4 := ⟨⟨[a, b, c, d], rfl⟩⟩

/-- The IPv4-mapped IPv6 address. -/
def createIPv6 (ip : IPAddressV4) : IPAddressV6 :=
  ⟨⟨List.replicate 10 0 ++ [0xff, 0xff] ++ ip.addr.val, by simp [ip.addr.property]⟩⟩

theorem toLongHBO_lt (ip : IPAddressV4) : ip.toLongHBO < 2 ^ 32 := by
  have h := beNat_lt ip.addr.val
  rw [ip.addr.property] at h
  simpa [toLongHBO] using h

theorem toLongHBO_fromLongHBO {v : Nat} (h : v < 2 ^ 32) : (fromLongHBO v).toLongHBO = v :=
  beNat_beBytes_of_lt (by simpa using h)

/-- The big-endian bytes of the host-order value are the address. -/
theorem beBytes_toLongHBO (ip : IPAddressV4) : beBytes 4 ip.toLongHBO = ip.addr.val := by
  have h := beBytes_beNat ip.addr.val
  rwa [ip.addr.property] at h

/-- The big-endian bytes of the network-order word are the address reversed. -/
theorem beBytes_toLong (ip : IPAddressV4) : beBytes 4 ip.toLong = ip.addr.val.reverse := by
  have h := beBytes_beNat ip.addr.val.reverse
  rwa [List.length_reverse, ip.addr.property] at h

end IPAddressV4

/-- `folly::IPAddress`: either family, or default constructed. -/
inductive IPAddress where
  | empty
  | v4 (ip : IPAddressV4)
  | v6 (ip : IPAddressV6)
  deriving DecidableEq

namespace IPAddress

def isV4 : IPAddress → Bool
  | v4 _ => true
  | _ => false

/-- The address version; 0 for the empty address. -/
def version : IPAddress → Nat
  | empty => 0
  | v4 _ => 4
  | v6 _ => 6

def asV4 : IPAddress → Except Fault IPAddressV4
  | v4 ip => .ok ip
  | _ => .error .addressFamily

/-- `operator<`. Addresses of different families are compared as IPv6; the empty
address comes last. -/
def lt : IPAddress → IPAddress → Bool
  | v4 a, v4 b => a.toLongHBO < b.toLongHBO
  | v6 a, v6 b => beNat a.addr.val < beNat b.addr.val
  | v6 a, v4 b => beNat a.addr.val < beNat b.createIPv6.addr.val
  | v4 a, v6 b => beNat a.createIPv6.addr.val < beNat b.addr.val
  | v4 _, empty => true
  | v6 _, empty => true
  | empty, _ => false

end IPAddress

structure SocketAddress where
  ip : IPAddress
  port : Nat
  deriving DecidableEq

end MasqueQuic
