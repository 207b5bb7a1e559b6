/-
Stateless resets and their sizes.

A reset is one byte shorter than a small datagram, and of a random size below that of a larger one,
but never smaller than `kMinStatelessPacketSize`. So a datagram of at most that size is answered by
one that is no smaller (`sendResetPacket_lt_iff`), and servers that answer each other's resets do
not stop once they are there (`statelessResets_endless`).
-/

import MasqueQuic.Quic.BufAppender
import MasqueQuic.Quic.ClientParameters
import MasqueQuic.Quic.RoutableIds

namespace MasqueQuic

/-! ### The packet -/

/-- 22 bytes longer than the minimum connection id. -/
def kMinStatelessPacketSize : Nat := 22 + kMinSelfConnectionIdV1Size

def kAppenderGrowthSize : Nat := 100

/-- The random choices for one reset. -/
structure ResetRandom where
  size : UInt32
  initialByte : UInt32
  octets : (n : Nat) → ByteArrayN n

/-- `secureRand32() % 0`. -/
inductive ResetFault where
  | divisionByZero
  deriving DecidableEq

/-- What `StatelessResetPacketBuilder` builds; the sizes are of 16 bits. -/
def statelessResetPacket (alloc : Nat → Nat) (maxPacketSize : Nat)
    (resetToken : ByteArrayN kStatelessResetTokenLength) (random : ResetRandom) : IOBuf :=
  let randomOctetLength := (maxPacketSize + 2 ^ 16 - resetToken.1.length - 1) % 2 ^ 16
  let initialByte := kFixedBitMask ||| (0x3f &&& random.initialByte.toUInt8)
  let appender := BufAppender.ofBuf (.create (alloc kAppenderGrowthSize)) kAppenderGrowthSize
  let appender := appender.writeBE alloc 1 initialByte.toNat
  let appender := appender.push alloc (random.octets randomOctetLength).1
  (appender.push alloc resetToken.1).head

/-- The size that `sendResetPacket` chooses: narrowed to 16 bits, as `packetSize` itself is for the
comparison with the largest payload. -/
def statelessResetSize (packetSize : Nat) (random : ResetRandom) : Except ResetFault Nat :=
  let resetSize := min (packetSize % 2 ^ 16) kDefaultMaxUDPPayload
  if packetSize < 43 then
    .ok (max ((packetSize + 2 ^ 64 - 1) % 2 ^ 16) kMinStatelessPacketSize)
  else if resetSize = 0 then .error .divisionByZero
  else .ok (max (random.size.toNat % resetSize) kMinStatelessPacketSize)

/-- The packet that is written to the socket, if one is. The token of a connection ID is made with
the secret, which the server sets when it starts. -/
def sendResetPacket (alloc : Nat → Nat)
    (generateToken : BoundedConnectionId → ByteArrayN kStatelessResetTokenLength)
    (headerForm : HeaderForm) (networkData : NetworkData) (connId : BoundedConnectionId)
    (random : ResetRandom) : Except ResetFault (Option IOBuf) :=
  -- Only send resets in response to short header packets.
  if headerForm ≠ .short then .ok none
  else
    match statelessResetSize networkData.totalData random with
    | .error fault => .error fault
    | .ok resetSize =>
        .ok (some (statelessResetPacket alloc resetSize (generateToken connId) random))

/-- The reasons with which the guard of `dispatchPacketData` calls `sendResetPacket`. -/
def PacketDropReason.sendsReset : PacketDropReason → Bool
  | .routingErrorWrongHost => true
  | .connectionNotFound => true
  | .cannotForwardData => true
  | _ => false

namespace PacketWorker

variable {α : Type} (worker : PacketWorker α) (lib : SocketAddressLib α) (alloc : Nat → Nat)
  (generateToken : BoundedConnectionId → ByteArrayN kStatelessResetTokenLength) (client : α)
  (routingData : RoutingData) (networkData : NetworkData) (quicVersion : Option QuicVersion)
  (isForwardedData : Bool)

/-- `dispatchPacketData` answers the datagram with a stateless reset. -/
def answersWithReset : Bool :=
  match worker.dispatchPacketData lib client routingData networkData quicVersion
    isForwardedData with
  | .dropped reason => reason.sendsReset && decide (routingData.headerForm = .short)
  | _ => false

/-- The reset that `dispatchPacketData` sends. -/
def dispatchReset (random : ResetRandom) : Except ResetFault (Option IOBuf) :=
  match worker.dispatchPacketData lib client routingData networkData quicVersion
    isForwardedData with
  | .dropped reason =>
      if reason.sendsReset then
        sendResetPacket alloc generateToken routingData.headerForm networkData
          routingData.destinationConnId random
      else .ok none
  | _ => .ok none

end PacketWorker

/-! ### Sizes -/

theorem kMinStatelessPacketSize_eq : kMinStatelessPacketSize = 26 := rfl

/-- The packet has the size that was asked for, where there is room for the token. -/
theorem statelessResetPacket_bytes (alloc : Nat → Nat) {maxPacketSize : Nat}
    (hlow : kMinStatelessPacketSize ≤ maxPacketSize) (hhigh : maxPacketSize < 2 ^ 16)
    (resetToken : ByteArrayN kStatelessResetTokenLength) (random : ResetRandom) :
    (statelessResetPacket alloc maxPacketSize resetToken random).bytes.length = maxPacketSize ∧
      resetToken.1 <:+ (statelessResetPacket alloc maxPacketSize resetToken random).bytes := by
  have hlen := resetToken.2
  rw [kMinStatelessPacketSize_eq] at hlow
  unfold kStatelessResetTokenLength at hlen
  have hoctetLength : (maxPacketSize + 2 ^ 16 - resetToken.1.length - 1) % 2 ^ 16 + 17 =
      maxPacketSize := by omega
  unfold statelessResetPacket
  dsimp only
  generalize (maxPacketSize + 2 ^ 16 - resetToken.1.length - 1) % 2 ^ 16 = randomOctetLength at *
  generalize (kFixedBitMask ||| (0x3f &&& random.initialByte.toUInt8)).toNat = initialByte
  have hstart := BufAppender.atEnd_ofBuf_create (alloc kAppenderGrowthSize) kAppenderGrowthSize
  have hbyte := BufAppender.writeBE_spec alloc hstart 1 initialByte
  have hoctets := BufAppender.push_spec alloc hbyte.1 (random.octets randomOctetLength).1
  have htoken := BufAppender.push_spec alloc hoctets.1 resetToken.1
  rw [htoken.2, hoctets.2, hbyte.2]
  constructor
  · have hempty : (BufAppender.ofBuf (.create (alloc kAppenderGrowthSize))
        kAppenderGrowthSize).head.bytes.length = 0 := rfl
    simp only [List.length_append, length_beBytes, (random.octets _).2, hlen, hempty]
    omega
  · exact List.suffix_append _ _

theorem statelessResetSize_spec {packetSize resetSize : Nat} {random : ResetRandom}
    (h : statelessResetSize packetSize random = .ok resetSize) :
    kMinStatelessPacketSize ≤ resetSize ∧ resetSize < 2 ^ 16 ∧
      (resetSize < packetSize ↔ kMinStatelessPacketSize < packetSize) := by
  rw [kMinStatelessPacketSize_eq]
  unfold statelessResetSize at h
  rw [kMinStatelessPacketSize_eq] at h
  dsimp only at h
  split at h
  · rw [Except.ok.injEq] at h
    omega
  · next hlarge =>
      split at h
      · cases h
      · next hzero =>
          rw [Except.ok.injEq] at h
          have hmod := Nat.mod_lt random.size.toNat (Nat.pos_of_ne_zero hzero)
          unfold kDefaultMaxUDPPayload at h hmod
          generalize random.size.toNat % min (packetSize % 2 ^ 16) 1472 = r at h hmod
          omega

theorem statelessResetSize_ok_iff {packetSize : Nat} (random : ResetRandom) :
    (∃ resetSize, statelessResetSize packetSize random = .ok resetSize) ↔
      packetSize < 43 ∨ packetSize % 2 ^ 16 ≠ 0 := by
  have hpayload :
      min (packetSize % 2 ^ 16) kDefaultMaxUDPPayload = 0 ↔ packetSize % 2 ^ 16 = 0 := by
    unfold kDefaultMaxUDPPayload
    omega
  unfold statelessResetSize
  dsimp only
  by_cases hsmall : packetSize < 43
  · rw [if_pos hsmall]
    exact iff_of_true ⟨_, rfl⟩ (.inl hsmall)
  · rw [if_neg hsmall]
    by_cases hzero : packetSize % 2 ^ 16 = 0
    · rw [if_pos (hpayload.mpr hzero)]
      refine iff_of_false ?_ ?_
      · rintro ⟨resetSize, h⟩
        cases h
      · rintro (h | h)
        · exact hsmall h
        · exact h hzero
    · rw [if_neg fun h => hzero (hpayload.mp h)]
      exact iff_of_true ⟨_, rfl⟩ (.inr hzero)

/-! ### One reset -/

/-- A reset holds the token, and is smaller than the datagram exactly if that is of more than the
least size. -/
theorem sendResetPacket_lt_iff {alloc : Nat → Nat}
    {generateToken : BoundedConnectionId → ByteArrayN kStatelessResetTokenLength}
    {headerForm : HeaderForm} {networkData : NetworkData} {connId : BoundedConnectionId}
    {random : ResetRandom} {reset : IOBuf}
    (h : sendResetPacket alloc generateToken headerForm networkData connId random =
      .ok (some reset)) :
    kMinStatelessPacketSize ≤ reset.bytes.length ∧ (generateToken connId).1 <:+ reset.bytes ∧
      (reset.bytes.length < networkData.totalData ↔
        kMinStatelessPacketSize < networkData.totalData) := by
  unfold sendResetPacket at h
  split at h
  · cases h
  · cases hsize : statelessResetSize networkData.totalData random with
    | error fault =>
      rw [hsize] at h
      cases h
    | ok resetSize =>
      rw [hsize] at h
      cases h
      obtain ⟨hlow, hhigh, hiff⟩ := statelessResetSize_spec hsize
      obtain ⟨hlen, htoken⟩ :=
        statelessResetPacket_bytes alloc hlow hhigh (generateToken connId) random
      rw [hlen]
      exact ⟨hlow, htoken, hiff⟩

theorem sendResetPacket_ok_iff (alloc : Nat → Nat)
    (generateToken : BoundedConnectionId → ByteArrayN kStatelessResetTokenLength)
    (networkData : NetworkData) (connId : BoundedConnectionId) (random : ResetRandom) :
    (∃ reset, sendResetPacket alloc generateToken .short networkData connId random =
      .ok (some reset)) ↔ networkData.totalData < 43 ∨ networkData.totalData % 2 ^ 16 ≠ 0 := by
  rw [← statelessResetSize_ok_iff random, sendResetPacket, if_neg (not_not_intro rfl)]
  cases statelessResetSize networkData.totalData random with
  | error fault => simp
  | ok resetSize => simp

namespace PacketWorker

variable {α : Type} {worker : PacketWorker α} {lib : SocketAddressLib α} {alloc : Nat → Nat}
  {generateToken : BoundedConnectionId → ByteArrayN kStatelessResetTokenLength} {client : α}
  {routingData : RoutingData} {networkData : NetworkData} {quicVersion : Option QuicVersion}
  {isForwardedData : Bool}

theorem dispatchReset_of_answers (random : ResetRandom)
    (h : worker.answersWithReset lib client routingData networkData quicVersion isForwardedData) :
    worker.dispatchReset lib alloc generateToken client routingData networkData quicVersion
      isForwardedData random = sendResetPacket alloc generateToken .short networkData
        routingData.destinationConnId random := by
  unfold answersWithReset at h
  unfold dispatchReset
  split at h
  · next reason hdrop =>
      simp only [Bool.and_eq_true, decide_eq_true_eq] at h
      simp only [h.1, if_true, h.2]
  · cases h

theorem answersWithReset_of_dispatchReset {random : ResetRandom} {reset : IOBuf}
    (h : worker.dispatchReset lib alloc generateToken client routingData networkData quicVersion
      isForwardedData random = .ok (some reset)) :
    worker.answersWithReset lib client routingData networkData quicVersion isForwardedData := by
  unfold dispatchReset at h
  unfold answersWithReset
  split at h
  · next reason hdrop =>
      split at h
      · next hsends =>
          unfold sendResetPacket at h
          split at h
          · cases h
          · next hform => simp [hsends, not_not.mp hform]
      · cases h
  · cases h

end PacketWorker

/-! ### Exchanges -/

/-- The routing data that a worker reads from a datagram with a short header. -/
def ShortRouting (datagram : IOBuf) (routingData : RoutingData) : Prop :=
  ∃ initialByte cursor destinationConnId rest, datagram.bytes = initialByte :: cursor ∧
    getHeaderForm initialByte = .short ∧
    (parseShortHeaderInvariants initialByte kDefaultConnectionIdSize).run cursor =
      .ok (destinationConnId, rest) ∧ routingData = ⟨.short, false, false, destinationConnId, none⟩

/-- Some worker answers the datagram with the reset. -/
def AnsweredBy (alloc : Nat → Nat) (datagram reset : IOBuf) : Prop :=
  ∃ (α : Type) (worker : PacketWorker α) (lib : SocketAddressLib α)
    (generateToken : BoundedConnectionId → ByteArrayN kStatelessResetTokenLength) (client : α)
    (routingData : RoutingData) (receiveTimePoint : Int64) (quicVersion : Option QuicVersion)
    (isForwardedData : Bool) (random : ResetRandom), ShortRouting datagram routingData ∧
    worker.dispatchReset lib alloc generateToken client routingData ⟨datagram, receiveTimePoint⟩
      quicVersion isForwardedData random = .ok (some reset)

theorem AnsweredBy.sizes {alloc : Nat → Nat} {datagram reset : IOBuf}
    (h : AnsweredBy alloc datagram reset) : kMinStatelessPacketSize ≤ reset.bytes.length ∧
      (reset.bytes.length < datagram.bytes.length ↔
        kMinStatelessPacketSize < datagram.bytes.length) := by
  obtain ⟨α, worker, lib, generateToken, client, routingData, receiveTimePoint, quicVersion,
    isForwardedData, random, -, hreset⟩ := h
  rw [PacketWorker.dispatchReset_of_answers random
    (PacketWorker.answersWithReset_of_dispatchReset hreset)] at hreset
  obtain ⟨hlow, -, hiff⟩ := sendResetPacket_lt_iff hreset
  rw [NetworkData.totalData, ← IOBuf.length_bytes] at hiff
  exact ⟨hlow, hiff⟩

/-- In an exchange each datagram after the first is a reset that answers the one before it. -/
def Exchange (alloc : Nat → Nat) (first : IOBuf) (resets : List IOBuf) : Prop :=
  List.IsChain (AnsweredBy alloc) (first :: resets)

/-- Every reset is smaller than the datagram that it answers. -/
def Shrinks (first : IOBuf) (resets : List IOBuf) : Prop :=
  List.IsChain (fun datagram reset => reset.bytes.length < datagram.bytes.length) (first :: resets)

/-- Every datagram that is answered is of more than the least size. -/
def AnsweredLarge (first : IOBuf) (resets : List IOBuf) : Prop :=
  List.IsChain (fun datagram _ => kMinStatelessPacketSize < datagram.bytes.length) (first :: resets)

theorem Exchange.shrinks_iff {alloc : Nat → Nat} {first : IOBuf} {resets : List IOBuf}
    (h : Exchange alloc first resets) : Shrinks first resets ↔ AnsweredLarge first resets := by
  induction resets generalizing first with
  | nil => exact iff_of_true (List.isChain_singleton first) (List.isChain_singleton first)
  | cons reset resets ih =>
    obtain ⟨hanswer, hrest⟩ := List.isChain_cons_cons.mp h
    have hrest' := ih hrest
    unfold Shrinks AnsweredLarge at hrest' ⊢
    rw [List.isChain_cons_cons, List.isChain_cons_cons, hanswer.sizes.2, hrest']

/-- An exchange in which resets get smaller has an end. -/
theorem Exchange.length_le {alloc : Nat → Nat} {first : IOBuf} {resets : List IOBuf}
    (h : Exchange alloc first resets) (hshrinks : Shrinks first resets) :
    resets ≠ [] → resets.length + kMinStatelessPacketSize ≤ first.bytes.length := by
  induction resets generalizing first with
  | nil => exact fun hne => absurd rfl hne
  | cons reset resets ih =>
    intro _
    obtain ⟨hanswer, hrest⟩ := List.isChain_cons_cons.mp h
    obtain ⟨hlt, hshrinks'⟩ := List.isChain_cons_cons.mp hshrinks
    have hlow := hanswer.sizes.1
    cases resets with
    | nil =>
      rw [List.length_singleton]
      omega
    | cons next resets =>
      have hlong := ih hrest hshrinks' (List.cons_ne_nil _ _)
      rw [List.length_cons]
      omega

/-! ### The sizes of all resets -/

/-- Any datagram that is answered gets a smaller reset with its token, whatever the random choices,
exactly if it is of more than the least size and not of a multiple of 65536 bytes. The resets of an
exchange get smaller exactly if each datagram that is answered is of more than the least size, and
then there are not more of them than bytes that the first datagram has to spare. -/
theorem statelessResets_iff (alloc : Nat → Nat) :
    (∀ (α : Type) (worker : PacketWorker α) (lib : SocketAddressLib α)
      (generateToken : BoundedConnectionId → ByteArrayN kStatelessResetTokenLength) (client : α)
      (routingData : RoutingData) (networkData : NetworkData) (quicVersion : Option QuicVersion)
      (isForwardedData : Bool),
      worker.answersWithReset lib client routingData networkData quicVersion isForwardedData →
      ((∀ random, ∃ reset, worker.dispatchReset lib alloc generateToken client routingData
          networkData quicVersion isForwardedData random = .ok (some reset) ∧
          reset.bytes.length < networkData.totalData ∧
          (generateToken routingData.destinationConnId).1 <:+ reset.bytes) ↔
        kMinStatelessPacketSize < networkData.totalData ∧
          networkData.totalData % 2 ^ 16 ≠ 0)) ∧
    ∀ first resets, Exchange alloc first resets →
      (Shrinks first resets ↔ AnsweredLarge first resets) ∧
      (AnsweredLarge first resets → resets ≠ [] →
        resets.length + kMinStatelessPacketSize ≤ first.bytes.length) := by
  constructor
  · intro α worker lib generateToken client routingData networkData quicVersion isForwardedData
      hanswers
    constructor
    · intro hall
      obtain ⟨reset, hreset, hlt, -⟩ := hall ⟨0, 0, fun n => ⟨List.replicate n 0, by simp⟩⟩
      rw [PacketWorker.dispatchReset_of_answers _ hanswers] at hreset
      have hsize := (sendResetPacket_lt_iff hreset).2.2.mp hlt
      have hok := (sendResetPacket_ok_iff _ _ _ _ _).mp ⟨reset, hreset⟩
      rw [kMinStatelessPacketSize_eq] at hsize
      exact ⟨hsize, by omega⟩
    · rintro ⟨hsize, hmod⟩ random
      obtain ⟨reset, hreset⟩ := (sendResetPacket_ok_iff alloc generateToken networkData
        routingData.destinationConnId random).mpr (.inr hmod)
      obtain ⟨-, htoken, hlt⟩ := sendResetPacket_lt_iff hreset
      rw [PacketWorker.dispatchReset_of_answers random hanswers]
      exact ⟨reset, hreset, hlt.mpr hsize, htoken⟩
  · intro first resets hexchange
    refine ⟨hexchange.shrinks_iff, fun hlarge => ?_⟩
    exact hexchange.length_le (hexchange.shrinks_iff.mpr hlarge)

/-! ### Resets without end -/

/-- A worker of another host than the one that the IDs name. -/
def strangeWorker : PacketWorker Unit where
  shutdown := false
  hasCallback := true
  isBlockListedSrcPort _ := false
  supportedVersions := []
  rejectNewConnections := false
  healthCheckToken := none
  packetForwardingEnabled := false
  hostId := 0
  processId := 0
  connIdAlgo := DefaultConnectionIdAlgo.algo
  connectionIdMap _ := none
  sourceAddressMap _ := none
  tokens := exampleServer none
  nowInMs := 0
  limited := false
  makeTransport := none

/-- The random bytes are 0x40, which makes the ID one of the first version. -/
def leastRandom : ResetRandom := ⟨0, 0, fun n => ⟨List.replicate n 0x40, by simp⟩⟩

def zeroToken : ByteArrayN kStatelessResetTokenLength := ⟨List.replicate 16 0, rfl⟩

def leastReset : IOBuf := statelessResetPacket id 26 zeroToken leastRandom

def noAddresses : SocketAddressLib Unit where
  getAddress _ := []
  setFromSockaddr _ := none
  isFamilyInet _ := false
  getIPAddress _ := .v4 (.ofOctets 127 0 0 1)
  getPort _ := none

def leastRouting : RoutingData :=
  ⟨.short, false, false, ⟨List.replicate 8 0x40, by decide⟩, none⟩

theorem length_leastReset : leastReset.bytes.length = 26 := by
  have hlow : kMinStatelessPacketSize ≤ 26 := Nat.le_refl _
  have hhigh : 26 < 2 ^ 16 := by decide
  exact (statelessResetPacket_bytes id hlow hhigh zeroToken leastRandom).1

theorem leastReset_answered : AnsweredBy id leastReset leastReset := by
  have hsize : (NetworkData.mk leastReset 0).totalData = 26 := by
    rw [NetworkData.totalData, ← IOBuf.length_bytes, length_leastReset]
  have hanswers : strangeWorker.answersWithReset noAddresses () leastRouting ⟨leastReset, 0⟩ none
      false = true := rfl
  refine ⟨Unit, strangeWorker, noAddresses, fun _ => zeroToken, (), leastRouting, 0, none, false,
    leastRandom, ?_, ?_⟩
  · exact ⟨0x40, List.replicate 9 0x40 ++ List.replicate 16 0, _, _, by decide, by decide, rfl, rfl⟩
  · rw [PacketWorker.dispatchReset_of_answers _ hanswers, sendResetPacket,
      if_neg (not_not_intro rfl), hsize]
    rfl

/-- A reset of 26 bytes is answered by one of 26 bytes, for as long as one likes. -/
theorem statelessResets_endless : leastReset.bytes.length = 26 ∧
    ∀ n, Exchange id leastReset (List.replicate n leastReset) := by
  refine ⟨length_leastReset, fun n => ?_⟩
  induction n with
  | zero => exact List.isChain_singleton leastReset
  | succ n ih => exact List.isChain_cons_cons.mpr ⟨leastReset_answered, ih⟩

end MasqueQuic
