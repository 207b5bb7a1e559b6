/-
What a server sends to an address that it has not verified
(`quic/server/state/ServerStateMachine.cpp`, the write functions of `quic/api/QuicTransportFunctions.cpp`
and `quic/dsr/frontend/WriteFunctions.cpp`).

Each packet of the client raises `writableBytesLimit`, and each packet of the server is scheduled with
what `totalBytesSent` leaves of it: by the usual write function, by the probes, as a clone of an earlier
packet or as a packetization request. The history is the packets that were sent, each with the limit at
its time.

`amplification_limited` is about every packet that is scheduled. A CONNECTION_CLOSE is not ("we're going
to bypass all the packet sent logic"), and the policy for source tokens sets a limit of its own
(`close_beyond_limit`).
-/

import MasqueQuic.Quic.Resumption
import MasqueQuic.Quic.WritableBytes

namespace MasqueQuic

/-! ### State -/

/-- The size of a packet, which has a header beside the overhead of its cipher. -/
structure EncryptedSize where
  cipherOverhead : Nat
  encodedSize : Nat
  cipherOverhead_lt : cipherOverhead < encodedSize
  deriving DecidableEq

structure SentBytes extends EncryptedSize where
  frames : List QuicWriteFrame
  /-- The limit when the packet was sent. -/
  writableBytesLimit : Option Nat
  deriving DecidableEq

structure LimitedServer where
  enableWritableBytesLimit : Bool
  limitedCwndInMss : Nat
  zeroRttSourceTokenMatchingPolicy : ZeroRttSourceTokenMatchingPolicy
  udpSendPacketLen : Nat
  isClientAddrVerified : Bool
  writableBytesLimit : Option Nat
  totalBytesSent : Nat
  sent : List SentBytes
  udpSendPacketLen_pos : 0 < udpSendPacketLen

/-- A packet that a `FrameScheduler` writes. -/
structure PacketRound extends EncryptedSize where
  scheduler : FrameScheduler
  pending : SchedulingConn
  protectionType : ProtectionType
  remainingBytes : Nat
  headerBytes : Nat

/-- A packet for which another host has the data of a stream. -/
structure PacketizationRound where
  frame : WriteStreamFrame
  headerBytes : Nat
  streamEncodedSize : Nat
  cipherOverhead : Nat
  streamEncodedSize_pos : 0 < streamEncodedSize

/-- What the congestion controller and the limiter of a path that is being validated allow. -/
structure OtherLimits where
  controllerWritableBytes : Option Nat
  pathValidationCredit : Option Nat

inductive LimitFault where
  /-- `CHECK(!conn.writableBytesLimit)` while a path is being validated. -/
  | checkFailed
  deriving DecidableEq

inductive LimitedServerEvent where
  /-- The frames of a packet have been processed. -/
  | receive
  | sourceToken (foundMatch : Bool)
  /-- The 1-RTT read cipher is there. -/
  | clientFinished
  | setUdpSendPacketLen (len : Nat) (hlen : 0 < len)
  | write (round : PacketRound) (other : OtherLimits)
  /-- What is pending, or a PING or an IMMEDIATE_ACK. -/
  | probe (round : PacketRound)
  | clone (index : Nat) (frames : List QuicWriteFrame) (size : EncryptedSize)
  | packetization (round : PacketizationRound) (other : OtherLimits)
  | close (size : EncryptedSize)

namespace LimitedServer

/-! ### The limit -/

/-- What a packet of the client is worth. -/
def limitedBytes (c : LimitedServer) : Nat := c.limitedCwndInMss * c.udpSendPacketLen

def updateWritableByteLimitOnRecvPacket (c : LimitedServer) : LimitedServer :=
  match c.writableBytesLimit with
  | some limit => { c with writableBytesLimit := some (limit + c.limitedBytes) }
  | none =>
      if c.isClientAddrVerified = false ∧ c.enableWritableBytesLimit then
        { c with writableBytesLimit := some c.limitedBytes }
      else c

/-- What `validateAndUpdateSourceToken` does to the limit. -/
def validateSourceToken (c : LimitedServer) (foundMatch : Bool) : LimitedServer :=
  if foundMatch then { c with isClientAddrVerified := true }
  else match c.zeroRttSourceTokenMatchingPolicy with
    | .limitIfNoExactMatch => { c with writableBytesLimit := some c.limitedBytes }
    | .rejectIfNoExactMatch | .alwaysReject => c

def limits (c : LimitedServer) (other : OtherLimits) : WriteLimits where
  udpSendPacketLen := c.udpSendPacketLen
  controllerWritableBytes := other.controllerWritableBytes
  writableBytesLimit := c.writableBytesLimit
  totalBytesSent := c.totalBytesSent
  pathValidationCredit := other.pathValidationCredit
  udpSendPacketLen_pos := c.udpSendPacketLen_pos

def congestionControlWritableBytes (c : LimitedServer) (other : OtherLimits) : Except LimitFault Nat :=
  if other.pathValidationCredit.isSome ∧ c.writableBytesLimit.isSome then .error .checkFailed
  else .ok (c.limits other).congestionControlWritableBytes

/-- What a probe may hold. -/
def probeWritableBytes (c : LimitedServer) : Nat :=
  if c.enableWritableBytesLimit then (c.limits ⟨none, none⟩).probePacketWritableBytes
  else WriteLimits.unlimitedWritableBytes

/-- The part of a packet that the cipher leaves, when `writableBytes` may be written. -/
def packetBytes (c : LimitedServer) (cipherOverhead writableBytes : Nat) : Nat :=
  (c.limits ⟨none, none⟩).packetBytes cipherOverhead writableBytes

/-! ### Packets -/

def packetSent (c : LimitedServer) (frames : List QuicWriteFrame) (size : EncryptedSize) :
    LimitedServer :=
  { c with
    totalBytesSent := c.totalBytesSent + size.encodedSize
    sent := c.sent ++ [⟨size, frames, c.writableBytesLimit⟩] }

/-- Without frames there is no packet. -/
def writePacket (c : LimitedServer) (round : PacketRound) (writableBytes : Nat) : LimitedServer :=
  let frames := (round.scheduler.scheduleFramesForPacket round.pending round.protectionType
    round.remainingBytes round.headerBytes (c.packetBytes round.cipherOverhead writableBytes)).frames
  if frames = [] then c else c.packetSent frames round.toEncryptedSize

/-- The clone is encrypted as the packet was. -/
def clonePacket (c : LimitedServer) (index : Nat) (frames : List QuicWriteFrame)
    (size : EncryptedSize) : LimitedServer :=
  match c.sent[index]? with
  | none => c
  | some p =>
      if p.encodedSize > c.packetBytes p.cipherOverhead c.probeWritableBytes + p.cipherOverhead then c
      else c.packetSent frames size

def writePacketizationRequest (c : LimitedServer) (round : PacketizationRound) (writableBytes : Nat) :
    LimitedServer :=
  if c.packetBytes round.cipherOverhead writableBytes - round.headerBytes < round.streamEncodedSize then c
  else
    have hpos := round.streamEncodedSize_pos
    c.packetSent [.writeStream round.frame]
      ⟨round.cipherOverhead, round.headerBytes + round.streamEncodedSize + round.cipherOverhead,
        by omega⟩

def step (c : LimitedServer) : LimitedServerEvent → Except LimitFault LimitedServer
  | .receive => .ok c.updateWritableByteLimitOnRecvPacket
  | .sourceToken foundMatch => .ok (c.validateSourceToken foundMatch)
  | .clientFinished => .ok { c with isClientAddrVerified := true, writableBytesLimit := none }
  | .setUdpSendPacketLen len hlen =>
      .ok { c with udpSendPacketLen := len, udpSendPacketLen_pos := hlen }
  | .write round other => do
      let writableBytes ← c.congestionControlWritableBytes other
      return c.writePacket round writableBytes
  | .probe round => .ok (c.writePacket round c.probeWritableBytes)
  | .clone index frames size => .ok (c.clonePacket index frames size)
  | .packetization round other => do
      let writableBytes ← c.congestionControlWritableBytes other
      return c.writePacketizationRequest round writableBytes
  | .close size => .ok (c.packetSent [.connectionClose] size)

/-! ### What is limited -/

/-- Nothing has been received or sent. -/
structure IsNew (c : LimitedServer) : Prop where
  isClientAddrVerified : c.isClientAddrVerified = false
  writableBytesLimit : c.writableBytesLimit = none
  totalBytesSent : c.totalBytesSent = 0
  sent : c.sent = []

end LimitedServer

/-- All packets but those with ACK and PADDING frames only, and those that close the connection. -/
def SentBytes.Limited (p : SentBytes) : Prop :=
  p.frames ≠ [.connectionClose] ∧ ∃ frame ∈ p.frames, ¬ frame.IsAck

/-- The bytes of the first packets. -/
def bytesBefore (sent : List SentBytes) (n : Nat) : Nat := ((sent.take n).map (·.encodedSize)).sum

namespace LimitedServer

/-- The limit after the next event. -/
def limitAfter (c : LimitedServer) (limit : Nat) : LimitedServerEvent → Option Nat
  | .receive => some (limit + c.limitedCwndInMss * c.udpSendPacketLen)
  | .sourceToken foundMatch =>
      if foundMatch = false ∧ c.zeroRttSourceTokenMatchingPolicy = .limitIfNoExactMatch then
        some (c.limitedCwndInMss * c.udpSendPacketLen)
      else some limit
  | .clientFinished => none
  | _ => some limit

structure Inv (c : LimitedServer) : Prop where
  enabled : c.enableWritableBytesLimit = true
  total : c.totalBytesSent = bytesBefore c.sent c.sent.length
  limited : c.isClientAddrVerified = false → c.writableBytesLimit.isSome
  recorded : c.isClientAddrVerified = false → ∀ p ∈ c.sent, p.writableBytesLimit.isSome
  within : ∀ i p, c.sent[i]? = some p → p.Limited → ∀ limit, p.writableBytesLimit = some limit →
    bytesBefore c.sent i < limit

end LimitedServer

theorem bytesBefore_append {sent : List SentBytes} {n : Nat} (h : n ≤ sent.length)
    (rest : List SentBytes) : bytesBefore (sent ++ rest) n = bytesBefore sent n := by
  unfold bytesBefore
  rw [List.take_append_of_le_length h]

theorem bytesBefore_succ {sent : List SentBytes} {i : Nat} {p : SentBytes} (h : sent[i]? = some p) :
    bytesBefore sent (i + 1) = bytesBefore sent i + p.encodedSize := by
  unfold bytesBefore
  rw [List.take_add_one, h, List.map_append, List.sum_append]
  rfl

namespace LimitedServer

variable {c c' : LimitedServer}

/-- A packet that is limited is sent while there is something left of the limit. -/
def MaySend (c : LimitedServer) (frames : List QuicWriteFrame) : Prop :=
  frames ≠ [.connectionClose] → (∃ frame ∈ frames, ¬ frame.IsAck) →
    ∀ limit, c.writableBytesLimit = some limit → c.totalBytesSent < limit

theorem Inv.packetSent (hc : c.Inv) {frames : List QuicWriteFrame} (size : EncryptedSize)
    (hmay : c.MaySend frames) : (c.packetSent frames size).Inv where
  enabled := hc.enabled
  total := by
    have hlast : (c.packetSent frames size).sent[c.sent.length]? =
        some ⟨size, frames, c.writableBytesLimit⟩ := List.getElem?_concat_length
    have hbytes := bytesBefore_succ hlast
    unfold LimitedServer.packetSent at hbytes ⊢
    dsimp only at hbytes ⊢
    rw [List.length_append, List.length_singleton, hbytes, bytesBefore_append (Nat.le_refl _),
      ← hc.total]
  limited := hc.limited
  recorded hverified p hp := by
    rcases List.mem_append.mp hp with hp | hp
    · exact hc.recorded hverified p hp
    · rw [List.mem_singleton.mp hp]
      exact hc.limited hverified
  within i p hp hlimited limit hlimit := by
    unfold LimitedServer.packetSent at hp ⊢
    dsimp only at hp ⊢
    by_cases hi : i < c.sent.length
    · rw [List.getElem?_append_left hi] at hp
      rw [bytesBefore_append (Nat.le_of_lt hi)]
      exact hc.within i p hp hlimited limit hlimit
    · rw [List.getElem?_append_right (Nat.not_lt.mp hi), List.getElem?_singleton] at hp
      split at hp
      · next hzero =>
          have hlast : i = c.sent.length := by omega
          cases hp
          rw [hlast, bytesBefore_append (Nat.le_refl _), ← hc.total]
          exact hmay hlimited.1 hlimited.2 limit hlimit
      · cases hp

/-! ### What may be sent -/

/-- Nothing may be written when the limit has been reached. -/
theorem congestionControlWritableBytes_zero {limit : Nat} (hlimit : c.writableBytesLimit = some limit)
    (hreached : limit ≤ c.totalBytesSent) {other : OtherLimits} {writableBytes : Nat}
    (h : c.congestionControlWritableBytes other = .ok writableBytes) : writableBytes = 0 := by
  unfold congestionControlWritableBytes at h
  split at h
  · cases h
  · next hcheck =>
      have hpath : other.pathValidationCredit = none := by
        by_contra hsome
        exact hcheck ⟨Option.isSome_iff_ne_none.mpr hsome, by rw [hlimit]; rfl⟩
      cases h
      exact WriteLimits.congestionControlWritableBytes_of_limit (l := c.limits other) hpath hlimit
        hreached

theorem probeWritableBytes_zero (henabled : c.enableWritableBytesLimit = true) {limit : Nat}
    (hlimit : c.writableBytesLimit = some limit) (hreached : limit ≤ c.totalBytesSent) :
    c.probeWritableBytes = 0 := by
  unfold probeWritableBytes
  rw [if_pos henabled]
  exact WriteLimits.maybeUnvalidatedClientWritableBytes_of_limit (l := c.limits ⟨none, none⟩) hlimit
    hreached

theorem packetBytes_zero (cipherOverhead : Nat) : c.packetBytes cipherOverhead 0 = 0 :=
  WriteLimits.packetBytes_zero _ _

/-- When nothing may be written once the limit has been reached, a packet of a scheduler keeps to it. -/
theorem Inv.writePacket (hc : c.Inv) (round : PacketRound) {writableBytes : Nat}
    (hzero : ∀ limit, c.writableBytesLimit = some limit → limit ≤ c.totalBytesSent →
      writableBytes = 0) : (c.writePacket round writableBytes).Inv := by
  unfold LimitedServer.writePacket
  dsimp only
  split
  · exact hc
  · refine hc.packetSent _ fun _ hframe limit hlimit => ?_
    by_contra hreached
    obtain ⟨frame, hmem, hack⟩ := hframe
    rw [hzero limit hlimit (Nat.not_lt.mp hreached), packetBytes_zero] at hmem
    exact hack (FrameScheduler.scheduleFramesForPacket_acks _ _ _ _ (Nat.zero_le _) frame hmem)

theorem Inv.clonePacket (hc : c.Inv) (index : Nat) (frames : List QuicWriteFrame)
    (size : EncryptedSize) : (c.clonePacket index frames size).Inv := by
  unfold LimitedServer.clonePacket
  cases c.sent[index]? with
  | none => exact hc
  | some p =>
    dsimp only
    split
    · exact hc
    · next hfits =>
        refine hc.packetSent _ fun _ _ limit hlimit => ?_
        by_contra hreached
        refine hfits ?_
        rw [probeWritableBytes_zero hc.enabled hlimit (Nat.not_lt.mp hreached), packetBytes_zero,
          Nat.zero_add]
        exact p.cipherOverhead_lt

theorem Inv.writePacketizationRequest (hc : c.Inv) (round : PacketizationRound) {writableBytes : Nat}
    (hzero : ∀ limit, c.writableBytesLimit = some limit → limit ≤ c.totalBytesSent →
      writableBytes = 0) : (c.writePacketizationRequest round writableBytes).Inv := by
  unfold LimitedServer.writePacketizationRequest
  split
  · exact hc
  · next hfits =>
      refine hc.packetSent _ fun _ _ limit hlimit => ?_
      by_contra hreached
      refine hfits ?_
      rw [hzero limit hlimit (Nat.not_lt.mp hreached), packetBytes_zero, Nat.zero_sub]
      exact round.streamEncodedSize_pos

/-! ### Runs -/

theorem Inv.receive (hc : c.Inv) : c.updateWritableByteLimitOnRecvPacket.Inv := by
  unfold updateWritableByteLimitOnRecvPacket
  split
  · exact ⟨hc.enabled, hc.total, fun _ => rfl, hc.recorded, hc.within⟩
  · split
    · exact ⟨hc.enabled, hc.total, fun _ => rfl, hc.recorded, hc.within⟩
    · exact hc

theorem Inv.sourceToken (hc : c.Inv) (foundMatch : Bool) : (c.validateSourceToken foundMatch).Inv := by
  unfold validateSourceToken
  split
  · exact ⟨hc.enabled, hc.total, Bool.noConfusion, Bool.noConfusion, hc.within⟩
  · split
    · exact ⟨hc.enabled, hc.total, fun _ => rfl, hc.recorded, hc.within⟩
    · exact hc
    · exact hc

theorem Inv.step (hc : c.Inv) (e : LimitedServerEvent) :
    Ends (fun _ => True) (c.step e) (fun c' => c'.Inv) := by
  cases e with
  | receive => exact .ok hc.receive
  | sourceToken foundMatch => exact .ok (hc.sourceToken foundMatch)
  | clientFinished =>
    exact .ok ⟨hc.enabled, hc.total, Bool.noConfusion, Bool.noConfusion, hc.within⟩
  | setUdpSendPacketLen len hlen =>
    exact .ok ⟨hc.enabled, hc.total, hc.limited, hc.recorded, hc.within⟩
  | write round other =>
    refine Ends.any.with_eq.bind fun writableBytes hbytes => .ok ?_
    exact hc.writePacket round fun limit hlimit hreached =>
      congestionControlWritableBytes_zero hlimit hreached hbytes.1
  | probe round =>
    refine .ok (hc.writePacket round fun limit hlimit hreached => ?_)
    exact probeWritableBytes_zero hc.enabled hlimit hreached
  | clone index frames size => exact .ok (hc.clonePacket index frames size)
  | packetization round other =>
    refine Ends.any.with_eq.bind fun writableBytes hbytes => .ok ?_
    exact hc.writePacketizationRequest round fun limit hlimit hreached =>
      congestionControlWritableBytes_zero hlimit hreached hbytes.1
  | close size => exact .ok (hc.packetSent size fun hclose => absurd rfl hclose)

/-- The first packet of the client. -/
theorem IsNew.inv (hc : c.IsNew) (henabled : c.enableWritableBytesLimit = true) :
    c.updateWritableByteLimitOnRecvPacket.Inv := by
  unfold updateWritableByteLimitOnRecvPacket
  rw [hc.writableBytesLimit]
  dsimp only
  rw [if_pos ⟨hc.isClientAddrVerified, henabled⟩]
  refine ⟨henabled, ?_, fun _ => rfl, fun _ p hp => ?_, fun i p hp => ?_⟩
  · rw [hc.totalBytesSent, hc.sent]
    rfl
  · rw [hc.sent] at hp
    cases hp
  · rw [hc.sent] at hp
    cases hp

theorem writePacket_limit (round : PacketRound) (writableBytes : Nat) :
    (c.writePacket round writableBytes).writableBytesLimit = c.writableBytesLimit := by
  unfold writePacket
  dsimp only
  split <;> rfl

theorem step_limit {limit : Nat} (hlimit : c.writableBytesLimit = some limit)
    (e : LimitedServerEvent) :
    Ends (fun _ => True) (c.step e) (fun c' => c'.writableBytesLimit = c.limitAfter limit e) := by
  cases e with
  | receive =>
    dsimp only [step]
    unfold updateWritableByteLimitOnRecvPacket
    rw [hlimit]
    exact .ok rfl
  | sourceToken foundMatch =>
    refine .ok ?_
    unfold validateSourceToken limitAfter
    cases foundMatch with
    | true => exact hlimit
    | false =>
      rw [if_neg Bool.false_ne_true]
      cases c.zeroRttSourceTokenMatchingPolicy with
      | limitIfNoExactMatch => rfl
      | rejectIfNoExactMatch => exact hlimit
      | alwaysReject => exact hlimit
  | clientFinished => exact .ok rfl
  | setUdpSendPacketLen len hlen => exact .ok hlimit
  | write round other =>
    exact Ends.any.bind fun writableBytes _ => .ok ((writePacket_limit _ _).trans hlimit)
  | probe round => exact .ok ((writePacket_limit _ _).trans hlimit)
  | clone index frames size =>
    refine .ok ?_
    unfold clonePacket
    split
    · exact hlimit
    · split
      · exact hlimit
      · exact hlimit
  | packetization round other =>
    refine Ends.any.bind fun writableBytes _ => .ok ?_
    unfold writePacketizationRequest
    split
    · exact hlimit
    · exact hlimit
  | close size => exact .ok hlimit

/-- While the address of the client is not verified: every packet that is limited was sent when the
bytes so far had not reached the limit, so that with it they exceed the limit by less than the packet;
and the limit grows with each packet of the client, and changes otherwise only with the source token and
the end of the handshake. -/
theorem amplification_limited (c₀ : LimitedServer) (hnew : c₀.IsNew)
    (henabled : c₀.enableWritableBytesLimit = true) (events : List LimitedServerEvent)
    (c : LimitedServer)
    (hrun : events.foldlM LimitedServer.step c₀.updateWritableByteLimitOnRecvPacket = .ok c)
    (hverified : c.isClientAddrVerified = false) :
    c.totalBytesSent = bytesBefore c.sent c.sent.length ∧
      (∀ i p, c.sent[i]? = some p → ∃ limit, p.writableBytesLimit = some limit ∧
        (p.Limited → bytesBefore c.sent i < limit ∧
          bytesBefore c.sent (i + 1) < limit + p.encodedSize)) ∧
      ∃ limit, c.writableBytesLimit = some limit ∧
        ∀ e c', c.step e = .ok c' → c'.writableBytesLimit = c.limitAfter limit e := by
  have hinv : c.Inv := Ends.of_ok (Ends.foldlM (E := fun _ => True)
    (I := fun (c : LimitedServer) _ => c.Inv) (fun _ e _ hc => hc.step e) (hnew.inv henabled)) hrun
  refine ⟨hinv.total, fun i p hp => ?_, ?_⟩
  · have hsome := hinv.recorded hverified p (List.mem_of_getElem? hp)
    obtain ⟨limit, hlimit⟩ := Option.isSome_iff_exists.mp hsome
    refine ⟨limit, hlimit, fun hlimited => ?_⟩
    have hlt := hinv.within i p hp hlimited limit hlimit
    rw [bytesBefore_succ hp]
    exact ⟨hlt, Nat.add_lt_add_right hlt _⟩
  · obtain ⟨limit, hlimit⟩ := Option.isSome_iff_exists.mp (hinv.limited hverified)
    exact ⟨limit, hlimit, fun e c' hstep => (step_limit hlimit e).of_ok hstep⟩

/-! ### What is not limited -/

/-- A server that has not received anything. -/
def unverified : LimitedServer where
  enableWritableBytesLimit := true
  limitedCwndInMss := 3
  zeroRttSourceTokenMatchingPolicy := .limitIfNoExactMatch
  udpSendPacketLen := 1232
  isClientAddrVerified := false
  writableBytesLimit := none
  totalBytesSent := 0
  sent := []
  udpSendPacketLen_pos := by decide

/-- A part of the certificate. -/
def certificateWrite (offset : Nat) : LimitedServerEvent :=
  .write {
    cipherOverhead := 16
    encodedSize := 1232
    cipherOverhead_lt := by decide
    scheduler := ⟨false, true, false, false, false, true, false, false, false, false⟩
    pending := { SchedulingConn.nothingPending with cryptoStream := ⟨[], offset, 4000⟩ }
    protectionType := .handshake
    remainingBytes := 1176
    headerBytes := 40 } ⟨some 12320, none⟩

theorem amplification_limited_certificate :
    ∃ c, [certificateWrite 0].foldlM LimitedServer.step
        unverified.updateWritableByteLimitOnRecvPacket = .ok c ∧
      c.totalBytesSent = bytesBefore c.sent c.sent.length := by
  have hrun : ∃ c, [certificateWrite 0].foldlM LimitedServer.step
      unverified.updateWritableByteLimitOnRecvPacket = .ok c ∧ c.isClientAddrVerified = false :=
    ⟨_, rfl, rfl⟩
  obtain ⟨c, hc, hverified⟩ := hrun
  exact ⟨c, hc, (amplification_limited unverified ⟨rfl, rfl, rfl, rfl⟩ rfl _ c hc hverified).1⟩

/-- The certificate takes up the limit, and an error closes the connection. -/
def certificateAndClose : List LimitedServerEvent :=
  [certificateWrite 0, certificateWrite 1172, certificateWrite 2343, certificateWrite 3514,
    .close ⟨16, 60, by decide⟩]

/-- The CONNECTION_CLOSE is sent when the limit has been reached; and with the second packet of the
client, whose token has another address, the limit is that of one packet. -/
theorem close_beyond_limit :
    (certificateAndClose.foldlM LimitedServer.step
        unverified.updateWritableByteLimitOnRecvPacket).toOption.map (fun c =>
          (c.writableBytesLimit, c.totalBytesSent, c.sent.map (·.frames))) =
      some (some 3696, 3696 + 60, [[.writeCrypto 0 1172], [.writeCrypto 1172 1171],
        [.writeCrypto 2343 1171], [.connectionClose]]) ∧
    ([LimitedServerEvent.receive, .sourceToken false].foldlM LimitedServer.step
        unverified.updateWritableByteLimitOnRecvPacket).toOption.map (·.writableBytesLimit) =
      some (some 3696) := by
  decide +kernel

end LimitedServer

end MasqueQuic
