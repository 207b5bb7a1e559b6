/-
Connection IDs that name a host, a process and a worker.

The version says where the fields lie, in bits over random bytes. For each field there is what its
setter leaves and what its getter then reads, and that the setters of the other fields do not touch
it (`setHostIdBitsInConnId_spec` and so on). A host id is cut down to the width that the version has
for it. The errors of all setters but the first are dropped.
-/

import Mathlib.Data.UInt
import MasqueQuic.Quic.PacketRouting

namespace MasqueQuic

/-! ### Bytes of an ID -/

namespace BoundedConnectionId

/-- `connId.data()[i]`. -/
def data (id : BoundedConnectionId) (i : Nat) : UInt8 := id.bytes.getD i 0

def modify (id : BoundedConnectionId) (i : Nat) (f : UInt8 → UInt8) : BoundedConnectionId :=
  ⟨id.bytes.modify i f, by rw [List.length_modify]; exact id.size_le⟩

@[simp] theorem size_modify (id : BoundedConnectionId) (i : Nat) (f : UInt8 → UInt8) :
    (id.modify i f).size = id.size :=
  List.length_modify ..

@[simp] theorem data_modify {id : BoundedConnectionId} {i : Nat} (hi : i < id.size)
    (f : UInt8 → UInt8) : (id.modify i f).data i = f (id.data i) := by
  have hget : id.bytes[i]? = some id.bytes[i] := List.getElem?_eq_getElem hi
  simp [data, modify, List.getD_eq_getElem?_getD, hget]

@[simp] theorem data_modify_ne {id : BoundedConnectionId} {i j : Nat} (hij : i ≠ j)
    (f : UInt8 → UInt8) : (id.modify i f).data j = id.data j := by
  simp [data, modify, List.getD_eq_getElem?_getD, hij]

end BoundedConnectionId

/-! ### The fields -/

inductive ConnectionIdVersion where
  | v0
  | v1
  | v2
  | v3
  deriving DecidableEq

def ConnectionIdVersion.code : ConnectionIdVersion → UInt8
  | v0 => 0
  | v1 => 1
  | v2 => 2
  | v3 => 3

/-- `static_cast` of two bits. -/
def ConnectionIdVersion.ofBits (bits : UInt8) : ConnectionIdVersion :=
  if bits = 0 then v0 else if bits = 1 then v1 else if bits = 2 then v2 else v3

/-- `quic::ServerConnectionIdParams`. -/
structure RoutableIdParams where
  version : ConnectionIdVersion
  hostId : UInt32
  processId : UInt8
  workerId : UInt8
  deriving DecidableEq

def kProcessIdV1BitMask : UInt8 := 0x20
def kProcessIdV2BitMask : UInt8 := 0x80
def kProcessIdV3BitMask : UInt8 := 0x80
def kHostIdV1FirstByteMask : UInt8 := 0x3f
def kHostIdV1SecondByteMask : UInt8 := 0xff
def kHostIdV1ThirdByteMask : UInt8 := 0xc0
def kWorkerIdV1FirstByteMask : UInt8 := 0xfc
def kWorkerIdV1SecondByteMask : UInt8 := 0x03
def kShortVersionBitsMask : UInt8 := 0xc0

def kMinSelfConnectionIdV2Size : Nat := 6
def kMinSelfConnectionIdV3Size : Nat := 7

/-- `makeUnexpected` of an `INTERNAL_ERROR` unless the ID has the size. -/
def withSize {α : Type} (connId : BoundedConnectionId) (size : Nat) (message : String) (a : α) :
    Except QuicException α :=
  if connId.size < size then .error (.internal message) else .ok a

def unsupportedVersion {α : Type} : Except QuicException α :=
  .error (.internal "Unsupported CID version")

def setVersionBitsInConnId (connId : BoundedConnectionId) (version : ConnectionIdVersion) :
    Except QuicException BoundedConnectionId :=
  withSize connId 1 "ConnectionId is too small for version"
    (connId.modify 0 fun b =>
      (b &&& ~~~kShortVersionBitsMask) ||| (kShortVersionBitsMask &&& (version.code <<< 6)))

def getVersionBitsFromConnId (connId : BoundedConnectionId) :
    Except QuicException ConnectionIdVersion :=
  withSize connId 1 "ConnectionId is too small for version"
    (.ofBits ((kShortVersionBitsMask &&& connId.data 0) >>> 6))

def setHostIdBitsInConnId (connId : BoundedConnectionId) (hostId : UInt32) :
    ConnectionIdVersion → Except QuicException BoundedConnectionId
  | .v1 =>
      let hostIdV1 := hostId.toUInt16
      withSize connId kMinSelfConnectionIdV1Size "ConnectionId is too small for hostid V1"
        (((connId.modify 0 fun b =>
            (b &&& ~~~kHostIdV1FirstByteMask) |||
              (kHostIdV1FirstByteMask &&& (hostIdV1 >>> 10).toUInt8)).modify 1 fun b =>
            (b &&& ~~~kHostIdV1SecondByteMask) |||
              (kHostIdV1SecondByteMask &&& (hostIdV1 >>> 2).toUInt8)).modify 2 fun b =>
            (b &&& ~~~kHostIdV1ThirdByteMask) |||
              (kHostIdV1ThirdByteMask &&& (hostIdV1 <<< 6).toUInt8))
  | .v2 =>
      withSize connId kMinSelfConnectionIdV2Size "ConnectionId is too small for hostid V2"
        (((connId.modify 1 fun _ => (hostId >>> 16).toUInt8).modify 2 fun _ =>
          (hostId >>> 8).toUInt8).modify 3 fun _ => hostId.toUInt8)
  | .v3 =>
      withSize connId kMinSelfConnectionIdV3Size "ConnectionId is too small for hostid V3"
        ((((connId.modify 1 fun _ => (hostId >>> 24).toUInt8).modify 2 fun _ =>
          (hostId >>> 16).toUInt8).modify 3 fun _ =>
          (hostId >>> 8).toUInt8).modify 4 fun _ => hostId.toUInt8)
  | .v0 => unsupportedVersion

def getHostIdBitsInConnId (connId : BoundedConnectionId) (version : ConnectionIdVersion) :
    Except QuicException UInt32 :=
  if connId.size < kMinSelfConnectionIdV1Size then
    .error (.internal "ConnectionId is too small for hostid")
  else match version with
  | .v1 =>
      .ok (((kHostIdV1FirstByteMask &&& connId.data 0).toUInt16 <<< 10) |||
        ((kHostIdV1SecondByteMask &&& connId.data 1).toUInt16 <<< 2) |||
        ((kHostIdV1ThirdByteMask &&& connId.data 2) >>> 6).toUInt16).toUInt32
  | .v2 =>
      withSize connId kMinSelfConnectionIdV2Size "ConnectionId is too small for hostid V2"
        (((connId.data 1).toUInt32 <<< 16) ||| ((connId.data 2).toUInt32 <<< 8) |||
          (connId.data 3).toUInt32)
  | .v3 =>
      withSize connId kMinSelfConnectionIdV3Size "ConnectionId is too small for hostid V3"
        (((connId.data 1).toUInt32 <<< 24) ||| ((connId.data 2).toUInt32 <<< 16) |||
          ((connId.data 3).toUInt32 <<< 8) ||| (connId.data 4).toUInt32)
  | .v0 => unsupportedVersion

def setWorkerIdBitsInConnId (connId : BoundedConnectionId) (workerId : UInt8) :
    ConnectionIdVersion → Except QuicException BoundedConnectionId
  | .v1 =>
      withSize connId kMinSelfConnectionIdV1Size "ConnectionId is too small for workerid"
        ((connId.modify 2 fun b =>
            (b &&& (0xc0 : UInt8)) |||
              ((kWorkerIdV1FirstByteMask &&& workerId) >>> 2)).modify 3 fun b =>
            (b &&& (0x3f : UInt8)) ||| ((kWorkerIdV1SecondByteMask &&& workerId) <<< 6))
  | .v2 =>
      withSize connId kMinSelfConnectionIdV2Size "ConnectionId is too small for hostid V2"
        (connId.modify 4 fun _ => workerId)
  | .v3 =>
      withSize connId kMinSelfConnectionIdV3Size "ConnectionId is too small for hostid V3"
        (connId.modify 5 fun _ => workerId)
  | .v0 => unsupportedVersion

def getWorkerIdFromConnId (connId : BoundedConnectionId) :
    ConnectionIdVersion → Except QuicException UInt8
  | .v1 =>
      withSize connId kMinSelfConnectionIdV1Size "ConnectionId is too small for workerid"
        ((connId.data 2 <<< 2) ||| (connId.data 3 >>> 6))
  | .v2 =>
      withSize connId kMinSelfConnectionIdV2Size "ConnectionId is too small for workerid V2"
        (connId.data 4)
  | .v3 =>
      withSize connId kMinSelfConnectionIdV3Size "ConnectionId is too small for workerid V3"
        (connId.data 5)
  | .v0 => unsupportedVersion

def setProcessIdBitsInConnId (connId : BoundedConnectionId) (processId : UInt8) :
    ConnectionIdVersion → Except QuicException BoundedConnectionId
  | .v1 =>
      withSize connId kMinSelfConnectionIdV1Size "ConnectionId is too small for processid"
        (connId.modify 3 fun b =>
          (b &&& ~~~kProcessIdV1BitMask) ||| (kProcessIdV1BitMask &&& (processId <<< 5)))
  | .v2 =>
      withSize connId kMinSelfConnectionIdV2Size "ConnectionId is too small for processid V2"
        (connId.modify 5 fun b =>
          (b &&& ~~~kProcessIdV2BitMask) ||| (kProcessIdV2BitMask &&& (processId <<< 7)))
  | .v3 =>
      withSize connId kMinSelfConnectionIdV3Size "ConnectionId is too small for processid V3"
        (connId.modify 6 fun b =>
          (b &&& ~~~kProcessIdV3BitMask) ||| (kProcessIdV3BitMask &&& (processId <<< 7)))
  | .v0 => unsupportedVersion

def getProcessIdBitsFromConnId (connId : BoundedConnectionId) :
    ConnectionIdVersion → Except QuicException UInt8
  | .v1 =>
      withSize connId kMinSelfConnectionIdV1Size "ConnectionId is too small for processid"
        ((kProcessIdV1BitMask &&& connId.data 3) >>> 5)
  | .v2 =>
      withSize connId kMinSelfConnectionIdV2Size "ConnectionId is too small for processid V2"
        ((kProcessIdV2BitMask &&& connId.data 5) >>> 7)
  | .v3 =>
      withSize connId kMinSelfConnectionIdV3Size "ConnectionId is too small for processid V3"
        ((kProcessIdV3BitMask &&& connId.data 6) >>> 7)
  | .v0 => unsupportedVersion

/-! ### `DefaultConnectionIdAlgo` -/

namespace DefaultConnectionIdAlgo

def canParse (id : BoundedConnectionId) : Bool :=
  match getVersionBitsFromConnId id with
  | .error _ => false
  | .ok .v1 => kMinSelfConnectionIdV1Size ≤ id.size
  | .ok .v2 => kMinSelfConnectionIdV2Size ≤ id.size
  | .ok .v3 => kMinSelfConnectionIdV3Size ≤ id.size
  | .ok .v0 => false

def parseConnectionId (id : BoundedConnectionId) : Except QuicException RoutableIdParams := do
  let version ← getVersionBitsFromConnId id
  let hostId ← getHostIdBitsInConnId id version
  let processId ← getProcessIdBitsFromConnId id version
  let workerId ← getWorkerIdFromConnId id version
  return ⟨version, hostId, processId, workerId⟩

/-- `.then([&](auto) { set(connId, …); })`: the lambda returns nothing, so an error of the setter is
lost and the ID stays as it is. -/
def thenIgnoring (connId : BoundedConnectionId) (set : Except QuicException BoundedConnectionId) :
    BoundedConnectionId :=
  match set with
  | .error _ => connId
  | .ok connId => connId

/-- The random bytes are a parameter. -/
def encodeConnectionId (params : RoutableIdParams)
    (connIdData : ByteArrayN kDefaultConnectionIdSize) :
    Except QuicException BoundedConnectionId := do
  let connId : BoundedConnectionId := ⟨connIdData.1, by rw [connIdData.2]; decide⟩
  let connId ← setVersionBitsInConnId connId params.version
  let connId := thenIgnoring connId (setHostIdBitsInConnId connId params.hostId params.version)
  let connId :=
    thenIgnoring connId (setProcessIdBitsInConnId connId params.processId params.version)
  let connId := thenIgnoring connId (setWorkerIdBitsInConnId connId params.workerId params.version)
  return connId

/-- As the routing of packets sees it. -/
def algo : ConnectionIdAlgo where
  canParse := canParse
  parseConnectionId id :=
    match parseConnectionId id with
    | .error _ => none
    | .ok params =>
        some ⟨params.hostId.toNat, params.processId.toNat, params.workerId.toNat⟩

end DefaultConnectionIdAlgo

/-! ### What the setters leave -/

/-- Words are equal if their bits are, one by one. -/
theorem bitVec_eq_of_bits {n : Nat} {x y : BitVec n}
    (h : ∀ i : Fin n, x[i.val] = y[i.val]) : x = y := by
  ext i hi
  exact h ⟨i, hi⟩

theorem withSize_of_le {α : Type} {connId : BoundedConnectionId} {size : Nat}
    (h : size ≤ connId.size) (message : String) (a : α) :
    withSize connId size message a = .ok a :=
  if_neg (Nat.not_lt_of_le h)

/-- The bits of the host id for which the version has room. -/
def ConnectionIdVersion.hostIdBits : ConnectionIdVersion → Nat
  | v0 => 0
  | v1 => 16
  | v2 => 24
  | v3 => 32

def hostIdField (hostId : UInt32) : ConnectionIdVersion → UInt32
  | .v0 => 0
  | .v1 => hostId.toUInt16.toUInt32
  | .v2 => hostId &&& 0xffffff
  | .v3 => hostId

theorem toNat_hostIdField (hostId : UInt32) (version : ConnectionIdVersion) :
    (hostIdField hostId version).toNat = hostId.toNat % 2 ^ version.hostIdBits := by
  cases version with
  | v0 => exact (Nat.mod_one _).symm
  | v1 => simp [hostIdField, ConnectionIdVersion.hostIdBits]
  | v2 =>
    have hand := Nat.and_two_pow_sub_one_eq_mod hostId.toNat 24
    simpa [hostIdField, ConnectionIdVersion.hostIdBits] using hand
  | v3 => exact (Nat.mod_eq_of_lt hostId.toNat_lt).symm

theorem hostIdBits_v1 (b₀ b₁ b₂ : UInt8) (hostId : UInt16) :
    ((kHostIdV1FirstByteMask &&& ((b₀ &&& ~~~kHostIdV1FirstByteMask) |||
        (kHostIdV1FirstByteMask &&& (hostId >>> 10).toUInt8))).toUInt16 <<< 10) |||
      ((kHostIdV1SecondByteMask &&& ((b₁ &&& ~~~kHostIdV1SecondByteMask) |||
        (kHostIdV1SecondByteMask &&& (hostId >>> 2).toUInt8))).toUInt16 <<< 2) |||
      ((kHostIdV1ThirdByteMask &&& ((b₂ &&& ~~~kHostIdV1ThirdByteMask) |||
        (kHostIdV1ThirdByteMask &&& (hostId <<< 6).toUInt8))) >>> 6).toUInt16 = hostId := by
  apply UInt16.toBitVec_inj.mp
  apply bitVec_eq_of_bits
  simp [Fin.forall_fin_succ, kHostIdV1FirstByteMask, kHostIdV1SecondByteMask,
    kHostIdV1ThirdByteMask, -UInt16.toUInt16_toUInt8, -UInt8.toUInt16_shiftLeft]

theorem hostIdBits_v2 (hostId : UInt32) :
    ((hostId >>> 16).toUInt8.toUInt32 <<< 16) ||| ((hostId >>> 8).toUInt8.toUInt32 <<< 8) |||
      hostId.toUInt8.toUInt32 = hostIdField hostId .v2 := by
  apply UInt32.toBitVec_inj.mp
  apply bitVec_eq_of_bits
  simp [Fin.forall_fin_succ, hostIdField, -UInt32.toUInt32_toUInt8]

theorem hostIdBits_v3 (hostId : UInt32) :
    ((hostId >>> 24).toUInt8.toUInt32 <<< 24) ||| ((hostId >>> 16).toUInt8.toUInt32 <<< 16) |||
      ((hostId >>> 8).toUInt8.toUInt32 <<< 8) ||| hostId.toUInt8.toUInt32 = hostId := by
  apply UInt32.toBitVec_inj.mp
  apply bitVec_eq_of_bits
  simp [Fin.forall_fin_succ, -UInt32.toUInt32_toUInt8]

/-- The other bits of the first byte are the version's. -/
theorem versionBits_v1 (b : UInt8) (hostId : UInt16) :
    (kShortVersionBitsMask &&& ((b &&& ~~~kHostIdV1FirstByteMask) |||
      (kHostIdV1FirstByteMask &&& (hostId >>> 10).toUInt8))) >>> 6 =
        (kShortVersionBitsMask &&& b) >>> 6 := by
  apply UInt8.toBitVec_inj.mp
  apply bitVec_eq_of_bits
  simp [Fin.forall_fin_succ, kShortVersionBitsMask, kHostIdV1FirstByteMask]

/-- The bit that is set for the process is the lowest of its id. -/
theorem processIdBits (mask : UInt8) (shift : UInt8) (b processId : UInt8)
    (h : (mask, shift) ∈ [(kProcessIdV1BitMask, 5), (kProcessIdV2BitMask, 7)]) :
    (mask &&& ((b &&& ~~~mask) ||| (mask &&& (processId <<< shift)))) >>> shift =
      processId &&& 1 := by
  apply UInt8.toBitVec_inj.mp
  apply bitVec_eq_of_bits
  simp only [List.mem_cons, Prod.mk.injEq, List.not_mem_nil, or_false] at h
  rcases h with ⟨rfl, rfl⟩ | ⟨rfl, rfl⟩
  · simp [Fin.forall_fin_succ, kProcessIdV1BitMask]
  · simp [Fin.forall_fin_succ, kProcessIdV2BitMask]

theorem workerIdBits_v1 (b₂ b₃ workerId : UInt8) :
    (((b₂ &&& (0xc0 : UInt8)) ||| ((kWorkerIdV1FirstByteMask &&& workerId) >>> 2)) <<< 2) |||
      (((b₃ &&& (0x3f : UInt8)) ||| ((kWorkerIdV1SecondByteMask &&& workerId) <<< 6)) >>> 6) =
        workerId := by
  apply UInt8.toBitVec_inj.mp
  apply bitVec_eq_of_bits
  simp [Fin.forall_fin_succ, kWorkerIdV1FirstByteMask, kWorkerIdV1SecondByteMask]

/-- The bits of the host in the byte that it shares with the worker. -/
theorem sharedHostIdBits_v1 (b workerId : UInt8) :
    kHostIdV1ThirdByteMask &&& ((b &&& (0xc0 : UInt8)) |||
      ((kWorkerIdV1FirstByteMask &&& workerId) >>> 2)) = kHostIdV1ThirdByteMask &&& b := by
  apply UInt8.toBitVec_inj.mp
  apply bitVec_eq_of_bits
  simp [Fin.forall_fin_succ, kWorkerIdV1FirstByteMask, kHostIdV1ThirdByteMask]

/-- The bit of the process in the byte that it shares with the worker. -/
theorem sharedProcessIdBits_v1 (b workerId : UInt8) :
    kProcessIdV1BitMask &&& ((b &&& (0x3f : UInt8)) |||
      ((kWorkerIdV1SecondByteMask &&& workerId) <<< 6)) = kProcessIdV1BitMask &&& b := by
  apply UInt8.toBitVec_inj.mp
  apply bitVec_eq_of_bits
  simp [Fin.forall_fin_succ, kWorkerIdV1SecondByteMask, kProcessIdV1BitMask]

section

variable {connId : BoundedConnectionId} (hsize : kMinSelfConnectionIdV3Size ≤ connId.size)
include hsize

theorem size_bounds : (∀ i < 7, i < connId.size) ∧ 1 ≤ connId.size ∧
    kMinSelfConnectionIdV1Size ≤ connId.size ∧ kMinSelfConnectionIdV2Size ≤ connId.size ∧
    kMinSelfConnectionIdV3Size ≤ connId.size := by
  unfold kMinSelfConnectionIdV3Size at *
  unfold kMinSelfConnectionIdV1Size kMinSelfConnectionIdV2Size
  refine ⟨fun i hi => ?_, ?_, ?_, ?_, hsize⟩ <;> omega

theorem setVersionBitsInConnId_spec (version : ConnectionIdVersion) :
    ∃ connId', setVersionBitsInConnId connId version = .ok connId' ∧ connId'.size = connId.size ∧
      getVersionBitsFromConnId connId' = .ok version := by
  unfold kMinSelfConnectionIdV3Size at hsize
  refine ⟨_, withSize_of_le (by omega) _ _, connId.size_modify _ _, ?_⟩
  rw [getVersionBitsFromConnId, withSize_of_le (by rw [connId.size_modify]; omega),
    BoundedConnectionId.data_modify (by omega)]
  have hbits : (kShortVersionBitsMask &&& ((connId.data 0 &&& ~~~kShortVersionBitsMask) |||
      (kShortVersionBitsMask &&& (version.code <<< 6)))) >>> 6 = version.code := by
    apply UInt8.toBitVec_inj.mp
    apply bitVec_eq_of_bits
    cases version <;> simp [Fin.forall_fin_succ, kShortVersionBitsMask, ConnectionIdVersion.code]
  rw [hbits]
  cases version <;> rfl

theorem setHostIdBitsInConnId_spec {version : ConnectionIdVersion} (hversion : version ≠ .v0)
    (hostId : UInt32) : ∃ connId', setHostIdBitsInConnId connId hostId version = .ok connId' ∧
      connId'.size = connId.size ∧
      getHostIdBitsInConnId connId' version = .ok (hostIdField hostId version) ∧
      getVersionBitsFromConnId connId' = getVersionBitsFromConnId connId := by
  obtain ⟨hlt, h1, h2, h3, h4⟩ := size_bounds hsize
  cases version with
  | v0 => exact absurd rfl hversion
  | v1 =>
    refine ⟨_, withSize_of_le h2 _ _, by simp, ?_, ?_⟩
    · have hbits := hostIdBits_v1 (connId.data 0) (connId.data 1) (connId.data 2) hostId.toUInt16
      rw [getHostIdBitsInConnId, if_neg (by simpa using h2)]
      simpa [hlt, hostIdField] using congrArg UInt16.toUInt32 hbits
    · have hbits := versionBits_v1 (connId.data 0) hostId.toUInt16
      simp [getVersionBitsFromConnId, withSize, hlt, hbits]
  | v2 =>
    refine ⟨_, withSize_of_le h3 _ _, by simp, ?_, ?_⟩
    · have hbits := hostIdBits_v2 hostId
      rw [getHostIdBitsInConnId, if_neg (by simpa using h2), withSize_of_le (by simpa using h3)]
      simpa [hlt] using hbits
    · simp [getVersionBitsFromConnId, withSize]
  | v3 =>
    refine ⟨_, withSize_of_le h4 _ _, by simp, ?_, ?_⟩
    · have hbits := hostIdBits_v3 hostId
      rw [getHostIdBitsInConnId, if_neg (by simpa using h2), withSize_of_le (by simpa using h4)]
      simpa [hlt, hostIdField, -UInt32.toUInt32_toUInt8] using hbits
    · simp [getVersionBitsFromConnId, withSize]

theorem setProcessIdBitsInConnId_spec {version : ConnectionIdVersion} (hversion : version ≠ .v0)
    (processId : UInt8) :
    ∃ connId', setProcessIdBitsInConnId connId processId version = .ok connId' ∧
      connId'.size = connId.size ∧
      getProcessIdBitsFromConnId connId' version = .ok (processId &&& 1) ∧
      getHostIdBitsInConnId connId' version = getHostIdBitsInConnId connId version ∧
      getVersionBitsFromConnId connId' = getVersionBitsFromConnId connId := by
  obtain ⟨hlt, h1, h2, h3, h4⟩ := size_bounds hsize
  cases version with
  | v0 => exact absurd rfl hversion
  | v1 =>
    refine ⟨_, withSize_of_le h2 _ _, by simp, ?_, ?_, ?_⟩
    · have hbits := processIdBits kProcessIdV1BitMask 5 (connId.data 3) processId (by simp)
      rw [getProcessIdBitsFromConnId, withSize_of_le (by simpa using h2)]
      simpa [hlt] using hbits
    · simp [getHostIdBitsInConnId]
    · simp [getVersionBitsFromConnId, withSize]
  | v2 =>
    refine ⟨_, withSize_of_le h3 _ _, by simp, ?_, ?_, ?_⟩
    · have hbits := processIdBits kProcessIdV2BitMask 7 (connId.data 5) processId (by simp)
      rw [getProcessIdBitsFromConnId, withSize_of_le (by simpa using h3)]
      simpa [hlt] using hbits
    · simp [getHostIdBitsInConnId, withSize]
    · simp [getVersionBitsFromConnId, withSize]
  | v3 =>
    refine ⟨_, withSize_of_le h4 _ _, by simp, ?_, ?_, ?_⟩
    · have hbits := processIdBits kProcessIdV3BitMask 7 (connId.data 6) processId
        (by simp [kProcessIdV2BitMask, kProcessIdV3BitMask])
      rw [getProcessIdBitsFromConnId, withSize_of_le (by simpa using h4)]
      simpa [hlt] using hbits
    · simp [getHostIdBitsInConnId, withSize]
    · simp [getVersionBitsFromConnId, withSize]

theorem setWorkerIdBitsInConnId_spec {version : ConnectionIdVersion} (hversion : version ≠ .v0)
    (workerId : UInt8) :
    ∃ connId', setWorkerIdBitsInConnId connId workerId version = .ok connId' ∧
      connId'.size = connId.size ∧
      getWorkerIdFromConnId connId' version = .ok workerId ∧
      getProcessIdBitsFromConnId connId' version = getProcessIdBitsFromConnId connId version ∧
      getHostIdBitsInConnId connId' version = getHostIdBitsInConnId connId version ∧
      getVersionBitsFromConnId connId' = getVersionBitsFromConnId connId := by
  obtain ⟨hlt, h1, h2, h3, h4⟩ := size_bounds hsize
  cases version with
  | v0 => exact absurd rfl hversion
  | v1 =>
    refine ⟨_, withSize_of_le h2 _ _, by simp, ?_, ?_, ?_, ?_⟩
    · have hbits := workerIdBits_v1 (connId.data 2) (connId.data 3) workerId
      rw [getWorkerIdFromConnId, withSize_of_le (by simpa using h2)]
      simpa [hlt] using hbits
    · simp [getProcessIdBitsFromConnId, withSize, hlt, sharedProcessIdBits_v1]
    · simp only [getHostIdBitsInConnId, BoundedConnectionId.size_modify]
      simp [hlt, sharedHostIdBits_v1]
    · simp [getVersionBitsFromConnId, withSize]
  | v2 =>
    refine ⟨_, withSize_of_le h3 _ _, by simp, ?_, ?_, ?_, ?_⟩
    · rw [getWorkerIdFromConnId, withSize_of_le (by simpa using h3)]
      simp [hlt]
    · simp [getProcessIdBitsFromConnId, withSize]
    · simp [getHostIdBitsInConnId, withSize]
    · simp [getVersionBitsFromConnId, withSize]
  | v3 =>
    refine ⟨_, withSize_of_le h4 _ _, by simp, ?_, ?_, ?_, ?_⟩
    · rw [getWorkerIdFromConnId, withSize_of_le (by simpa using h4)]
      simp [hlt]
    · simp [getProcessIdBitsFromConnId, withSize]
    · simp [getHostIdBitsInConnId, withSize]
    · simp [getVersionBitsFromConnId, withSize]

end

/-! ### Both ends -/

namespace DefaultConnectionIdAlgo

/-- The ID that is made says what it was made for, as far as there are bits for it. -/
theorem encodeConnectionId_spec {params : RoutableIdParams} (hversion : params.version ≠ .v0)
    (connIdData : ByteArrayN kDefaultConnectionIdSize) :
    ∃ id, encodeConnectionId params connIdData = .ok id ∧ id.size = kDefaultConnectionIdSize ∧
      parseConnectionId id = .ok ⟨params.version, hostIdField params.hostId params.version,
        params.processId &&& 1, params.workerId⟩ := by
  have hstart : connIdData.1.length ≤ kMaxConnectionIdSize := by
    rw [connIdData.2]
    decide
  have hlarge : ∀ {id : BoundedConnectionId}, id.size = kDefaultConnectionIdSize →
      kMinSelfConnectionIdV3Size ≤ id.size := by
    intro id hid
    rw [hid]
    decide
  have hsize₀ : (⟨connIdData.1, hstart⟩ : BoundedConnectionId).size = kDefaultConnectionIdSize :=
    connIdData.2
  obtain ⟨id₁, hset₁, hsize₁, hversion₁⟩ :=
    setVersionBitsInConnId_spec (hlarge hsize₀) params.version
  rw [hsize₀] at hsize₁
  obtain ⟨id₂, hset₂, hsize₂, hhost₂, hversion₂⟩ :=
    setHostIdBitsInConnId_spec (hlarge hsize₁) hversion params.hostId
  rw [hsize₁] at hsize₂
  obtain ⟨id₃, hset₃, hsize₃, hprocess₃, hhost₃, hversion₃⟩ :=
    setProcessIdBitsInConnId_spec (hlarge hsize₂) hversion params.processId
  rw [hsize₂] at hsize₃
  obtain ⟨id₄, hset₄, hsize₄, hworker₄, hprocess₄, hhost₄, hversion₄⟩ :=
    setWorkerIdBitsInConnId_spec (hlarge hsize₃) hversion params.workerId
  rw [hsize₃] at hsize₄
  refine ⟨id₄, ?_, hsize₄, ?_⟩
  · unfold encodeConnectionId
    dsimp only
    rw [hset₁, except_ok_bind]
    simp only [hset₂, hset₃, hset₄, thenIgnoring]
    rfl
  · unfold parseConnectionId
    rw [hversion₄, hversion₃, hversion₂, hversion₁, except_ok_bind, hhost₄, hhost₃, hhost₂,
      except_ok_bind, hprocess₄, hprocess₃, except_ok_bind, hworker₄, except_ok_bind]
    rfl

theorem canParse_of_parse {id : BoundedConnectionId} {params : RoutableIdParams}
    (hsize : id.size = kDefaultConnectionIdSize) (h : parseConnectionId id = .ok params)
    (hversion : params.version ≠ .v0) : canParse id = true := by
  have hread : getVersionBitsFromConnId id = .ok params.version := by
    unfold parseConnectionId at h
    obtain ⟨version, hread, h⟩ := except_bind_eq_ok.mp h
    obtain ⟨hostId, -, h⟩ := except_bind_eq_ok.mp h
    obtain ⟨processId, -, h⟩ := except_bind_eq_ok.mp h
    obtain ⟨workerId, -, h⟩ := except_bind_eq_ok.mp h
    cases h
    exact hread
  unfold canParse
  rw [hread]
  cases hparams : params.version with
  | v0 => exact absurd hparams hversion
  | v1 => simp [hsize, kDefaultConnectionIdSize, kMinSelfConnectionIdV1Size]
  | v2 => simp [hsize, kDefaultConnectionIdSize, kMinSelfConnectionIdV2Size]
  | v3 => simp [hsize, kDefaultConnectionIdSize, kMinSelfConnectionIdV3Size]

theorem getWorkerToRouteTo_of_parse {α : Type} {server : PacketServer α}
    {routingData : RoutingData} {params : RoutableIdParams} (halgo : server.connIdAlgo = algo)
    (hparse : parseConnectionId routingData.destinationConnId = .ok params)
    (hworker : params.workerId.toNat < server.workers.length) :
    server.getWorkerToRouteTo routingData = server.workers[params.workerId.toNat]? := by
  unfold PacketServer.getWorkerToRouteTo
  rw [halgo]
  simp only [algo, hparse, Nat.mod_eq_of_lt hworker]

/-- For the versions 1 to 3 and any random bytes, an ID is made that can be parsed, and gives back
the version, the low bits of the host id for which the version has room, the lowest bit of the
process id and the worker id: whatever fits comes back as it was. A packet to the ID goes to the
worker that it names. -/
theorem encodeConnectionId_routable (params : RoutableIdParams) (hversion : params.version ≠ .v0)
    (connIdData : ByteArrayN kDefaultConnectionIdSize) :
    ∃ id parsed, encodeConnectionId params connIdData = .ok id ∧ canParse id = true ∧
      parseConnectionId id = .ok parsed ∧ parsed.version = params.version ∧
      parsed.hostId.toNat = params.hostId.toNat % 2 ^ params.version.hostIdBits ∧
      parsed.processId.toNat = params.processId.toNat % 2 ∧ parsed.workerId = params.workerId ∧
      (params.hostId.toNat < 2 ^ params.version.hostIdBits → params.processId.toNat ≤ 1 →
        parsed = params) ∧
      ∀ (α : Type) (server : PacketServer α) (routingData : RoutingData),
        server.connIdAlgo = algo → routingData.destinationConnId = id →
        server.workers.length ≤ 255 → params.workerId.toNat < server.workers.length →
          server.getWorkerToRouteTo routingData = server.workers[params.workerId.toNat]? := by
  obtain ⟨id, hencode, hsize, hparse⟩ := encodeConnectionId_spec hversion connIdData
  have hhost := toNat_hostIdField params.hostId params.version
  have hprocess : (params.processId &&& 1).toNat = params.processId.toNat % 2 := by
    rw [UInt8.toNat_and]
    exact Nat.and_one_is_mod _
  refine ⟨id, _, hencode, canParse_of_parse hsize hparse hversion, hparse, rfl, hhost, hprocess,
    rfl, ?_, ?_⟩
  · intro hfits hbit
    have hhostId : hostIdField params.hostId params.version = params.hostId := by
      apply UInt32.toNat_inj.mp
      rw [hhost, Nat.mod_eq_of_lt hfits]
    have hprocessId : params.processId &&& 1 = params.processId := by
      apply UInt8.toNat_inj.mp
      rw [hprocess, Nat.mod_eq_of_lt (by omega)]
    rw [hhostId, hprocessId]
  · rintro α server routingData halgo rfl - hworker
    have hroute := getWorkerToRouteTo_of_parse halgo hparse hworker
    exact hroute

theorem encodeConnectionId_routable_v1 : ∃ id parsed,
    encodeConnectionId ⟨.v1, 0xabcd, 1, 200⟩ ⟨List.replicate 8 0xff, rfl⟩ = .ok id ∧
      parseConnectionId id = .ok parsed ∧ parsed.hostId.toNat = 0xabcd := by
  obtain ⟨id, parsed, hencode, -, hparse, -, hhost, -⟩ :=
    encodeConnectionId_routable ⟨.v1, 0xabcd, 1, 200⟩ (by decide) ⟨List.replicate 8 0xff, rfl⟩
  exact ⟨id, parsed, hencode, hparse, hhost⟩

/-- A host id of more than 16 bits is cut down, without an error. -/
theorem encodeConnectionId_truncates : ∃ id,
    encodeConnectionId ⟨.v1, 65536, 0, 7⟩ ⟨List.replicate 8 0, rfl⟩ = .ok id ∧
      parseConnectionId id = .ok ⟨.v1, 0, 0, 7⟩ :=
  ⟨_, rfl, rfl⟩

end DefaultConnectionIdAlgo

end MasqueQuic
