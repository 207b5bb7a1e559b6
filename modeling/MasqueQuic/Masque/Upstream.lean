/-
The upstream side of the MASQUE server (`samples/masque/MasqueUpstream.h`,
`MasqueUpstream.cpp`): the shared tun device, which hands out the addresses of
CONNECT-IP streams, and the stream objects.

`registerTransaction` increments the counter twice and uses the value the second
increment returns. Nothing compares that value with the size of the subnet. The
addition of an address and a number is not part of the program; it is a
parameter, `plus`.

The constructors of `QuicStream` initialise `properties` and leave `type` as the
storage had it, so they take the word found there as an argument.
-/

import MasqueQuic.Folly.Basic

namespace MasqueQuic

/-! ### The shared tun device -/

/-- The subnets `main` and `SharedTun` admit. -/
structure Subnet where
  base : IPAddressV4
  prefixLength : Nat
  prefixLength_le : prefixLength ≤ 24
  lastOctet : base.toLongHBO % 256 = 0
  deriving DecidableEq

namespace Subnet

/-- The number of addresses of the subnet. -/
def size (subnet : Subnet) : Nat := 2 ^ (32 - subnet.prefixLength)

/-- The address lies in the subnet. -/
def Contains (subnet : Subnet) (ip : IPAddressV4) : Prop :=
  ip.toLongHBO / subnet.size = subnet.base.toLongHBO / subnet.size

instance (subnet : Subnet) (ip : IPAddressV4) : Decidable (subnet.Contains ip) :=
  inferInstanceAs (Decidable (_ = _))

/-- The offset from the base address is still inside the subnet. -/
def HasOffset (subnet : Subnet) (offset : Nat) : Prop :=
  subnet.base.toLongHBO % subnet.size + offset < subnet.size

instance (subnet : Subnet) (offset : Nat) : Decidable (subnet.HasOffset offset) :=
  inferInstanceAs (Decidable (_ < _))

theorem size_pos (subnet : Subnet) : 0 < subnet.size := Nat.two_pow_pos _

/-- The addresses from the base up to the end of the subnet do not overflow. -/
theorem HasOffset.lt {subnet : Subnet} {offset : Nat} (h : subnet.HasOffset offset) :
    subnet.base.toLongHBO + offset < 2 ^ 32 := by
  have hp := subnet.prefixLength_le
  have hpow : 2 ^ 32 = subnet.size * 2 ^ subnet.prefixLength := by
    rw [size, ← Nat.pow_add]
    congr 1
    omega
  have hdiv : subnet.base.toLongHBO / subnet.size < 2 ^ subnet.prefixLength := by
    apply Nat.div_lt_of_lt_mul
    rw [← hpow]
    exact subnet.base.toLongHBO_lt
  have hbase := Nat.div_add_mod subnet.base.toLongHBO subnet.size
  have hnext : subnet.size * (subnet.base.toLongHBO / subnet.size + 1) ≤ 2 ^ 32 := by
    rw [hpow]
    exact Nat.mul_le_mul_left _ hdiv
  unfold HasOffset at h
  rw [Nat.mul_add, Nat.mul_one] at hnext
  omega

/-- The default network of the server. -/
def default : Subnet := ⟨.ofOctets 192 168 0 0, 24, by decide, by decide⟩

end Subnet

/-- An addition of addresses: on host-order values, modulo 2^32. -/
def plusHBO (ip : IPAddressV4) (n : Nat) : IPAddressV4 := .fromLongHBO (ip.toLongHBO + n)

/-- `SharedTun`: `κ` stands for the read callbacks. -/
structure SharedTun (κ : Type) where
  subnet : Subnet
  subnetCounter : Nat
  streamMap : List (Nat × κ)
  deriving DecidableEq

namespace SharedTun

variable {κ : Type}

/-- A new device. -/
def ofSubnet (subnet : Subnet) : SharedTun κ := ⟨subnet, 0, []⟩

/-- `subnetCounter++` of an `atomic_size_t`. -/
def increment (tun : SharedTun κ) : SharedTun κ :=
  { tun with subnetCounter := (tun.subnetCounter + 1) % 2 ^ 64 }

/-- `streamMap.find(ip.toLongHBO()) != streamMap.end()`. -/
def isRegistered (tun : SharedTun κ) (ip : IPAddressV4) : Bool :=
  tun.streamMap.any fun entry => entry.1 == ip.toLongHBO

/-- `streamMap.insert(ip.toLongHBO(), callback)`: a key that is there keeps its value. -/
def insert (tun : SharedTun κ) (ip : IPAddressV4) (callback : κ) : SharedTun κ :=
  if tun.isRegistered ip then tun
  else { tun with streamMap := tun.streamMap ++ [(ip.toLongHBO, callback)] }

/-- `SharedTun::registerTransaction`, without another thread in between. -/
def registerTransaction (plus : IPAddressV4 → Nat → IPAddressV4) (tun : SharedTun κ)
    (callback : κ) : Except Fault (IPAddressV4 × SharedTun κ) := do
  let tun := tun.increment
  let currentCounter := tun.subnetCounter
  let tun := tun.increment
  let assignedIP := plus tun.subnet.base currentCounter
  check (!tun.isRegistered assignedIP)
  return (assignedIP, tun.insert assignedIP callback)

theorem isRegistered_iff {tun : SharedTun κ} {ip : IPAddressV4} :
    tun.isRegistered ip = true ↔ ip.toLongHBO ∈ tun.streamMap.map Prod.fst := by
  simp [isRegistered, List.mem_map, List.any_eq_true]

@[simp] theorem subnet_insert (tun : SharedTun κ) (ip : IPAddressV4) (callback : κ) :
    (tun.insert ip callback).subnet = tun.subnet := by
  unfold insert
  split <;> rfl

@[simp] theorem subnetCounter_insert (tun : SharedTun κ) (ip : IPAddressV4) (callback : κ) :
    (tun.insert ip callback).subnetCounter = tun.subnetCounter := by
  unfold insert
  split <;> rfl

/-- Inserting adds at most the key that is inserted. -/
theorem mem_keys_insert {tun : SharedTun κ} {ip : IPAddressV4} {callback : κ} {key : Nat} :
    key ∈ (tun.insert ip callback).streamMap.map Prod.fst ↔
      key ∈ tun.streamMap.map Prod.fst ∨ key = ip.toLongHBO := by
  unfold insert
  split
  · rename_i h
    rw [isRegistered_iff] at h
    constructor
    · exact .inl
    · rintro (hkey | rfl)
      · exact hkey
      · exact h
  · simp

end SharedTun

/-! ### Streams -/

/-- `QuicStream::TYPE`. -/
inductive StreamType where
  | UDP | IP
  deriving DecidableEq, Repr

/-- The enumerator values. -/
def StreamType.code : StreamType → Nat
  | .UDP => 0
  | .IP => 1

/-- What `QuicStream::properties` holds. The socket of a CONNECT-UDP stream is
connected to `target`; the tun device of a CONNECT-IP stream is the shared one. -/
inductive Properties where
  | UDPProperties (target : SocketAddress)
  | IPProperties (assignedIP : IPAddressV4)
  deriving DecidableEq

/-- `std::holds_alternative`. -/
def Properties.kind : Properties → StreamType
  | UDPProperties _ => .UDP
  | IPProperties _ => .IP

/-- `QuicStream`: `type` is the word in the storage of the field. -/
structure QuicStream where
  type : Nat
  properties : Properties
  deriving DecidableEq

/-- The constructors: `type` keeps the word that the storage held before. -/
def QuicStream.construct (storage : Nat) (properties : Properties) : QuicStream :=
  { type := storage, properties := properties }

/-- `std::get<IPProperties>(properties)`. -/
def QuicStream.getIPProperties (stream : QuicStream) : Except Fault IPAddressV4 :=
  match stream.properties with
  | .IPProperties assignedIP => .ok assignedIP
  | .UDPProperties _ => .error .variantAccess

end MasqueQuic
