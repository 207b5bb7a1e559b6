/-
When the packet limit is kept.

`budgetKept_iff` gives the exact condition for a call of `writeData`: in the Initial and the Handshake
space pending probes find something to be sent with; with 1-RTT probes pending the limit is not used up
yet, and either the probes are no more than the limit or their bytes come to less than one full packet
above it. Without probes the limit never wraps, since the packets of a write are no more than the limit
and none is larger than a full packet.
-/

import MasqueQuic.Quic.WriteBudget

namespace MasqueQuic

variable {σ : Type}

/-! ### Packets -/

def packetBytes (ps : List WrittenPacket) : Nat := (ps.map (·.encodedSize)).sum

theorem packetBytes_append (ps qs : List WrittenPacket) :
    packetBytes (ps ++ qs) = packetBytes ps + packetBytes qs := by
  unfold packetBytes
  rw [List.map_append, List.sum_append]

theorem packetBytes_le {ps : List WrittenPacket} {n : Nat} (h : ∀ p ∈ ps, p.encodedSize ≤ n) :
    packetBytes ps ≤ ps.length * n := by
  induction ps with
  | nil => exact Nat.zero_le _
  | cons p ps ih =>
    obtain ⟨hp, hps⟩ := List.forall_mem_cons.mp h
    change p.encodedSize + packetBytes ps ≤ (ps.length + 1) * n
    rw [Nat.succ_mul, Nat.add_comm]
    exact Nat.add_le_add (ih hps) hp

namespace DataPlane

variable {env : DataPlane σ} {s s' : WriteState σ} {space : PacketNumberSpace} {packetLimit : Nat}

/-- A full-size packet of 1-RTT data. -/
def isFull (env : DataPlane σ) (p : WrittenPacket) : Bool :=
  p.space == .appData && !p.probe && decide (env.udpSendPacketLen ≤ p.encodedSize)

def fullPackets (env : DataPlane σ) (ps : List WrittenPacket) : Nat := ps.countP env.isFull

theorem fullPackets_append (ps qs : List WrittenPacket) :
    env.fullPackets (ps ++ qs) = env.fullPackets ps + env.fullPackets qs :=
  List.countP_append

theorem fullPackets_mul_le (env : DataPlane σ) (ps : List WrittenPacket) :
    env.fullPackets ps * env.udpSendPacketLen ≤ packetBytes ps := by
  unfold fullPackets
  induction ps with
  | nil => simp
  | cons p ps ih =>
    change _ ≤ p.encodedSize + packetBytes ps
    rw [List.countP_cons]
    split
    · next hfull =>
        unfold isFull at hfull
        simp only [Bool.and_eq_true, decide_eq_true_eq] at hfull
        rw [Nat.add_mul, Nat.one_mul]
        omega
    · rw [Nat.add_zero]
      omega

theorem fullPackets_eq_zero {ps : List WrittenPacket} (h : ∀ p ∈ ps, env.isFull p = false) :
    env.fullPackets ps = 0 := by
  refine List.countP_eq_zero.mpr fun p hp => ?_
  rw [h p hp]
  exact Bool.false_ne_true

/-- The state has more packets, and the probes that wait, the attempts and the limit are as before. -/
structure Appends (env : DataPlane σ) (space : PacketNumberSpace) (probe : Bool)
    (ps : List WrittenPacket) (s s' : WriteState σ) : Prop where
  packets : s'.packets = s.packets ++ ps
  bytes : s'.totalBytesSent = s.totalBytesSent + packetBytes ps
  all : ∀ p ∈ ps, p.space = space ∧ p.probe = probe ∧ p.encodedSize ≤ env.udpSendPacketLen
  numProbePackets : s'.numProbePackets = s.numProbePackets
  attempted : s'.attempted = s.attempted
  wrapped : s'.wrapped = s.wrapped

namespace Appends

variable {probe : Bool} {ps qs : List WrittenPacket} {t : WriteState σ}

/-- Only the connection is another one. -/
theorem nil (conn : σ) : Appends env space probe [] s { s with conn } where
  packets := (List.append_nil _).symm
  bytes := rfl
  all _ hp := absurd hp List.not_mem_nil
  numProbePackets := rfl
  attempted := rfl
  wrapped := rfl

theorem one {p : WrittenPacket} {conn : σ} (hspace : p.space = space) (hprobe : p.probe = probe)
    (hle : p.encodedSize ≤ env.udpSendPacketLen) :
    Appends env space probe [p] s (s.onBuilt p conn) where
  packets := rfl
  bytes := rfl
  all q hq := by
    rw [List.mem_singleton.mp hq]
    exact ⟨hspace, hprobe, hle⟩
  numProbePackets := rfl
  attempted := rfl
  wrapped := rfl

theorem trans (h : Appends env space probe ps s s') (h' : Appends env space probe qs s' t) :
    Appends env space probe (ps ++ qs) s t where
  packets := by rw [h'.packets, h.packets, List.append_assoc]
  bytes := by rw [h'.bytes, h.bytes, packetBytes_append, Nat.add_assoc]
  all p hp := (List.mem_append.mp hp).elim (h.all p) (h'.all p)
  numProbePackets := h'.numProbePackets.trans h.numProbePackets
  attempted := h'.attempted.trans h.attempted
  wrapped := h'.wrapped.trans h.wrapped

theorem le (h : Appends env space probe ps s s') :
    packetBytes ps ≤ ps.length * env.udpSendPacketLen :=
  packetBytes_le fun p hp => (h.all p hp).2.2

end Appends

/-! ### Writes -/

theorem writeLoop_appends (env : DataPlane σ) (space : PacketNumberSpace) (scheduler : WriteScheduler)
    (f : σ → Nat) (probe : Bool) (left : Nat) (result : WriteQuicDataResult) (s : WriteState σ) :
    ∃ ps, Appends env space probe ps s (env.writeLoop space scheduler f probe left result s).1 ∧
      (env.writeLoop space scheduler f probe left result s).2 =
        ⟨result.packetsWritten + ps.length, result.probesWritten,
          result.bytesWritten + packetBytes ps⟩ ∧ ps.length ≤ left := by
  induction left generalizing result s with
  | zero => exact ⟨[], .nil s.conn, rfl, Nat.le_refl 0⟩
  | succ left ih =>
    unfold writeLoop
    split
    · split
      · next conn hbuild => exact ⟨[], .nil conn, rfl, Nat.zero_le _⟩
      · next conn encodedSize writeSuccess hbuild =>
          have hone : Appends env space probe [⟨space, probe, encodedSize⟩] s
              (s.onBuilt ⟨space, probe, encodedSize⟩ conn) :=
            .one rfl rfl (env.build_le _ _ _ _ _ _ hbuild)
          dsimp only
          split
          · obtain ⟨ps, happends, hresult, hlength⟩ := ih
              ⟨result.packetsWritten + 1, result.probesWritten, result.bytesWritten + encodedSize⟩
              (s.onBuilt ⟨space, probe, encodedSize⟩ conn)
            refine ⟨_, hone.trans happends, ?_, ?_⟩
            · rw [hresult, packetBytes_append, List.length_append, List.length_singleton]
              congr 1
              · exact Nat.add_assoc _ _ _
              · exact Nat.add_assoc _ _ _
            · rw [List.length_append, List.length_singleton]
              omega
          · exact ⟨_, hone, rfl, Nat.succ_le_succ (Nat.zero_le _)⟩
    · exact ⟨[], .nil s.conn, rfl, Nat.zero_le _⟩

theorem writeConnectionDataToSocket_appends (env : DataPlane σ) (space : PacketNumberSpace)
    (scheduler : WriteScheduler) (f : σ → Nat) (probe : Bool) (packetLimit : Nat)
    (s : WriteState σ) :
    ∃ s' ps, env.writeConnectionDataToSocket space scheduler f probe packetLimit s =
        (s', ⟨ps.length, 0, packetBytes ps⟩) ∧
      Appends env space probe ps s s' ∧ ps.length ≤ packetLimit := by
  obtain ⟨ps, happends, hresult, hlength⟩ :=
    writeLoop_appends env space scheduler f probe packetLimit ⟨0, 0, 0⟩ s
  refine ⟨_, ps, Prod.ext rfl ?_, happends, hlength⟩
  rw [Nat.zero_add, Nat.zero_add] at hresult
  exact hresult

/-- The probes of a space, as packets. -/
theorem writeProbingDataToSocket_appends (env : DataPlane σ) (space : PacketNumberSpace)
    (s : WriteState σ) :
    ∃ s' qs, env.writeProbingDataToSocket space s = (s', ⟨0, qs.length, packetBytes qs⟩) ∧
      Appends env space true qs { s with attempted := s.attempted ++ [space] } s' := by
  unfold writeProbingDataToSocket
  dsimp only
  generalize env.probesToSend space (s.numProbePackets space)
    (env.increaseNextPacketNum space s.conn) = probes
  generalize (if env.enableWritableBytesLimit = true then env.probePacketWritableBytes
    else env.unlimitedWritableBytes) = f
  obtain ⟨s₁, ps, hcloning, happends, -⟩ := writeConnectionDataToSocket_appends env space
    (.cloning space) f true probes.2 { s with
      conn := env.increaseNextPacketNum space s.conn
      attempted := s.attempted ++ [space] }
  have hstart : Appends env space true [] { s with attempted := s.attempted ++ [space] } { s with
      conn := env.increaseNextPacketNum space s.conn
      attempted := s.attempted ++ [space] } := .nil _
  rw [hcloning]
  dsimp only
  split
  · obtain ⟨s₂, qs, hprobing, happends', -⟩ := writeConnectionDataToSocket_appends env space
      (.probe space) f true (probes.1 - ps.length) { s₁ with conn := env.requestProbe space s₁.conn }
    rw [hprobing]
    have hrequest : Appends env space true [] s₁ { s₁ with
      conn := env.requestProbe space s₁.conn } := .nil _
    refine ⟨s₂, ps ++ qs, ?_, (hstart.trans happends).trans (hrequest.trans happends')⟩
    rw [List.length_append, packetBytes_append]
  · exact ⟨s₁, ps, rfl, hstart.trans happends⟩

/-- The probes and the data that a space takes. -/
structure Writes (env : DataPlane σ) (space : PacketNumberSpace) (probes : Bool) (packetLimit : Nat)
    (qs ps : List WrittenPacket) (s s' : WriteState σ) : Prop where
  packets : s'.packets = s.packets ++ (qs ++ ps)
  bytes : s'.totalBytesSent = s.totalBytesSent + packetBytes (qs ++ ps)
  probe : ∀ p ∈ qs, p.space = space ∧ p.probe = true ∧ p.encodedSize ≤ env.udpSendPacketLen
  data : ∀ p ∈ ps, p.space = space ∧ p.probe = false ∧ p.encodedSize ≤ env.udpSendPacketLen
  length : ps.length ≤ packetLimit - qs.length
  numProbePackets : s'.numProbePackets =
    fun other => if other = space then 0 else s.numProbePackets other
  attempted : s'.attempted = s.attempted ++ if probes then [space] else []
  wrapped : s'.wrapped = s.wrapped

theorem writeSpace_writes (env : DataPlane σ) (space : PacketNumberSpace) (scheduler : WriteScheduler)
    (probes : Bool) (packetLimit : Nat) (s : WriteState σ) :
    ∃ s' qs ps, env.writeSpace space scheduler probes packetLimit s =
        (s', ⟨ps.length, qs.length, packetBytes (qs ++ ps)⟩) ∧
      Writes env space probes packetLimit qs ps s s' ∧
      (qs.length, packetBytes qs) = if probes then
        ((env.writeProbingDataToSocket space s).2.probesWritten,
          (env.writeProbingDataToSocket space s).2.bytesWritten) else (0, 0) := by
  have hprobes : ∃ s₁ qs, (if probes then env.writeProbingDataToSocket space s
        else (s, (⟨0, 0, 0⟩ : WriteQuicDataResult))) = (s₁, ⟨0, qs.length, packetBytes qs⟩) ∧
      Appends env space true qs { s with
        attempted := s.attempted ++ if probes then [space] else [] } s₁ ∧
      (qs.length, packetBytes qs) = if probes then
        ((env.writeProbingDataToSocket space s).2.probesWritten,
          (env.writeProbingDataToSocket space s).2.bytesWritten) else (0, 0) := by
    cases probes with
    | true =>
      obtain ⟨s₁, qs, hwrite, happends⟩ := writeProbingDataToSocket_appends env space s
      refine ⟨s₁, qs, hwrite, happends, ?_⟩
      rw [hwrite]
      rfl
    | false =>
      refine ⟨s, [], rfl, ?_, rfl⟩
      rw [if_neg Bool.false_ne_true, List.append_nil]
      exact .nil s.conn
  obtain ⟨s₁, qs, hwrite, hq, hresult⟩ := hprobes
  unfold writeSpace
  rw [hwrite]
  dsimp only
  obtain ⟨s₂, ps, hdata, hp, hlength⟩ := writeConnectionDataToSocket_appends env space scheduler
    env.congestionControlWritableBytes false
    (if qs.length > packetLimit then 0 else packetLimit - qs.length) (s₁.clearProbes space)
  rw [hdata]
  refine ⟨s₂, qs, ps, ?_, ⟨?_, ?_, hq.all, hp.all, ?_, ?_, ?_, ?_⟩, hresult⟩
  · rw [packetBytes_append]
  · rw [hp.packets, ← List.append_assoc]
    exact congrArg (· ++ ps) hq.packets
  · rw [hp.bytes, packetBytes_append, ← Nat.add_assoc]
    exact congrArg (· + packetBytes ps) hq.bytes
  · split at hlength
    · omega
    · exact hlength
  · rw [hp.numProbePackets]
    unfold WriteState.clearProbes
    rw [hq.numProbePackets]
  · rw [hp.attempted]
    exact hq.attempted
  · rw [hp.wrapped]
    exact hq.wrapped

/-! ### The limit -/

theorem subLimit_of_le (s : WriteState σ) {n : Nat} (h : n ≤ packetLimit)
    (hlimit : packetLimit < 2 ^ 64) : s.subLimit packetLimit n = (packetLimit - n, s) := by
  unfold WriteState.subLimit
  rw [sub64_of_le h hlimit, decide_eq_false (Nat.not_lt.mpr h), Bool.or_false]

theorem subLimit_eq (s : WriteState σ) (packetLimit n : Nat) :
    ∃ packetLimit' s', s.subLimit packetLimit n = (packetLimit', s') ∧
      s'.wrapped = (s.wrapped || decide (packetLimit < n)) :=
  ⟨_, _, rfl, rfl⟩

/-! ### The crypto spaces -/

/-- Probes are pending in the space and it is found to have something to write. -/
def triesProbes (env : DataPlane σ) (space : PacketNumberSpace) (s : WriteState σ) : Prop :=
  ((s.numProbePackets space ≠ 0 ∧ env.retransmissionBuffer space s.conn ≠ 0 ∧
      env.packetCount space s.conn ≠ 0) ∨ env.cryptoHasData space s.conn ∨
      env.toWriteAcks space s.conn) ∧
    s.numProbePackets space ≠ 0 ∧ (env.retransmissionBuffer space s.conn ≠ 0 ∨
      env.hasData (.cryptoAndAcks space) s.conn)

/-- What the packets of a crypto space leave. -/
structure CryptoWritten (env : DataPlane σ) (space : PacketNumberSpace) (packetLimit : Nat)
    (s : WriteState σ) (packetLimit' : Nat) (s' : WriteState σ) : Prop where
  limit : packetLimit' ≤ packetLimit
  full : env.fullPackets s'.packets = env.fullPackets s.packets
  attempted : ∀ other, other ∈ s'.attempted ↔
    other ∈ s.attempted ∨ other = space ∧ triesProbes env space s
  others : ∀ other, other ≠ space → s'.numProbePackets other = s.numProbePackets other
  wrapped : s'.wrapped = s.wrapped

theorem isFull_eq_false {p : WrittenPacket} (h : p.space ≠ .appData ∨ p.probe = true) :
    env.isFull p = false := by
  unfold isFull
  cases h with
  | inl h => rw [beq_false_of_ne h, Bool.false_and, Bool.false_and]
  | inr h => rw [h, Bool.not_true, Bool.and_false, Bool.false_and]

theorem writeCryptoSpace_written (env : DataPlane σ) {space : PacketNumberSpace}
    (hspace : space ≠ .appData) (hlimit : packetLimit < 2 ^ 64) (s : WriteState σ) :
    CryptoWritten env space packetLimit s (env.writeCryptoSpace space packetLimit s).1
      (env.writeCryptoSpace space packetLimit s).2 := by
  unfold writeCryptoSpace
  split
  · next houter =>
      unfold writeCryptoAndAckDataToSocket
      obtain ⟨s', qs, ps, hwrite, hwrites, -⟩ := writeSpace_writes env space (.cryptoAndAcks space)
        (s.numProbePackets space != 0 && (env.retransmissionBuffer space s.conn != 0 ||
          env.hasData (.cryptoAndAcks space) s.conn)) packetLimit s
      rw [hwrite]
      dsimp only
      have hlength := hwrites.length
      rw [subLimit_of_le s' (by omega) hlimit]
      refine ⟨Nat.sub_le _ _, ?_, fun other => ?_, fun other hother => ?_, hwrites.wrapped⟩
      · have hcrypto : ∀ p ∈ ps, env.isFull p = false := by
          intro p hp
          refine isFull_eq_false (.inl ?_)
          rw [(hwrites.data p hp).1]
          exact hspace
        rw [hwrites.packets, fullPackets_append, fullPackets_append,
          fullPackets_eq_zero fun p hp => isFull_eq_false (.inr (hwrites.probe p hp).2.1),
          fullPackets_eq_zero hcrypto, Nat.add_zero]
      · rw [hwrites.attempted, List.mem_append]
        refine or_congr_right ?_
        simp only [Bool.or_eq_true, Bool.and_eq_true, bne_iff_ne] at houter
        unfold triesProbes
        split
        · next hprobes =>
            simp only [Bool.or_eq_true, Bool.and_eq_true, bne_iff_ne] at hprobes
            rw [List.mem_singleton]
            refine (and_iff_left ⟨?_, hprobes⟩).symm
            tauto
        · next hprobes =>
            simp only [Bool.or_eq_true, Bool.and_eq_true, bne_iff_ne] at hprobes
            refine iff_of_false List.not_mem_nil ?_
            rintro ⟨-, -, h⟩
            exact hprobes h
      · rw [hwrites.numProbePackets]
        exact if_neg hother
  · next houter =>
      refine ⟨Nat.le_refl _, rfl, fun other => ?_, fun _ _ => rfl, rfl⟩
      refine (or_iff_left ?_).symm
      rintro ⟨-, houter', -⟩
      refine houter ?_
      simp only [Bool.or_eq_true, Bool.and_eq_true, bne_iff_ne]
      tauto

/-! ### 1-RTT data -/

theorem dsrLoop_appends (env : DataPlane σ) (left packetCounter : Nat) (s : WriteState σ) :
    ∃ ps, Appends env .appData false ps s (env.dsrLoop left packetCounter s) ∧ ps.length ≤ left := by
  induction left generalizing packetCounter s with
  | zero => exact ⟨[], .nil s.conn, Nat.le_refl 0⟩
  | succ left ih =>
    unfold dsrLoop
    split
    · split
      · next conn hbuild => exact ⟨[], .nil conn, Nat.zero_le _⟩
      · next conn encodedSize writeSuccess hbuild =>
          have hone : Appends env .appData false [⟨.appData, false, encodedSize⟩] s
              (s.onBuilt ⟨.appData, false, encodedSize⟩ conn) :=
            .one rfl rfl (env.buildDsr_le _ _ _ _ _ hbuild)
          dsimp only
          split
          · obtain ⟨ps, happends, hlength⟩ := ih (packetCounter + 1)
              (s.onBuilt ⟨.appData, false, encodedSize⟩ conn)
            refine ⟨_, hone.trans happends, ?_⟩
            rw [List.length_append, List.length_singleton]
            omega
          · exact ⟨_, hone, Nat.succ_le_succ (Nat.zero_le _)⟩
    · exact ⟨[], .nil s.conn, Nat.zero_le _⟩

theorem writePacketizationRequest_appends (env : DataPlane σ) (packetLimit : Nat)
    (s : WriteState σ) : ∃ ps, Appends env .appData false ps s
      (env.writePacketizationRequest packetLimit s) ∧ ps.length ≤ packetLimit := by
  unfold writePacketizationRequest
  split
  · exact dsrLoop_appends env packetLimit 0 s
  · exact ⟨[], .nil s.conn, Nat.zero_le _⟩

/-- The 1-RTT probes that are pending are no more than the limit, or together less than a full packet
above it. -/
def ProbesFit (env : DataPlane σ) (packetLimit : Nat) (s : WriteState σ) : Prop :=
  s.numProbePackets .appData ≠ 0 →
    (env.writeProbingDataToSocket .appData s).2.probesWritten ≤ packetLimit ∨
    (env.writeProbingDataToSocket .appData s).2.bytesWritten <
      (packetLimit + 1) * env.udpSendPacketLen

/-- What one time around the loop leaves. -/
structure OnceWritten (env : DataPlane σ) (packetLimit : Nat) (s : WriteState σ) (packetLimit' : Nat)
    (s' : WriteState σ) : Prop where
  full : packetLimit' + env.fullPackets s'.packets ≤ packetLimit + env.fullPackets s.packets
  limit : packetLimit' ≤ packetLimit
  attempted : ∀ space, space ∈ s'.attempted ↔
    space ∈ s.attempted ∨ space = .appData ∧ s.numProbePackets .appData ≠ 0
  noProbes : s'.numProbePackets .appData = 0
  wrapped : s'.wrapped = s.wrapped

/-- The full packets are no more than the bytes say. -/
theorem full_le_bytes (ps : List WrittenPacket) {qs : List WrittenPacket} (hqs : ∀ p ∈ qs, p.probe = true) :
    env.fullPackets (qs ++ ps) ≤ packetBytes (qs ++ ps) / env.udpSendPacketLen := by
  rw [fullPackets_append, fullPackets_eq_zero fun p hp => isFull_eq_false (.inr (hqs p hp)),
    Nat.zero_add, Nat.le_div_iff_mul_le env.udpSendPacketLen_pos, packetBytes_append]
  exact (env.fullPackets_mul_le ps).trans (Nat.le_add_left _ _)

/-- What a write of 1-RTT data takes from the limit. It is too much exactly where the probes do not
fit. -/
theorem writeQuicDataToSocket_fits (env : DataPlane σ) (packetLimit : Nat) (s : WriteState σ) :
    ∃ s' qs ps, env.writeQuicDataToSocket packetLimit s =
        (s', ⟨ps.length, qs.length, packetBytes (qs ++ ps)⟩) ∧
      Writes env .appData (s.numProbePackets .appData != 0) packetLimit qs ps s s' ∧
      (packetBytes (qs ++ ps) / env.udpSendPacketLen ≤ packetLimit ↔
        ProbesFit env packetLimit s) := by
  obtain ⟨s', qs, ps, hwrite, hwrites, hprobes⟩ := writeSpace_writes env .appData .frames
    (s.numProbePackets .appData != 0) packetLimit s
  refine ⟨s', qs, ps, hwrite, hwrites, ?_⟩
  have hq : packetBytes qs ≤ qs.length * env.udpSendPacketLen :=
    packetBytes_le fun p hp => (hwrites.probe p hp).2.2
  have hp : packetBytes ps ≤ ps.length * env.udpSendPacketLen :=
    packetBytes_le fun p hp => (hwrites.data p hp).2.2
  have hlength := hwrites.length
  rw [packetBytes_append, ← Nat.lt_succ_iff, Nat.div_lt_iff_lt_mul env.udpSendPacketLen_pos]
  have hfew : qs.length ≤ packetLimit → packetBytes qs + packetBytes ps <
      (packetLimit + 1) * env.udpSendPacketLen := by
    intro hle
    have hall : (qs.length + ps.length) * env.udpSendPacketLen ≤
        packetLimit * env.udpSendPacketLen := Nat.mul_le_mul_right _ (by omega)
    have hpos := env.udpSendPacketLen_pos
    rw [Nat.add_mul] at hall
    rw [Nat.succ_mul]
    omega
  by_cases hpending : s.numProbePackets .appData = 0
  · have hnone : (s.numProbePackets .appData != 0) = false := by
      rw [hpending]
      rfl
    rw [hnone] at hprobes
    have hzero : qs.length = 0 := congrArg Prod.fst hprobes
    exact iff_of_true (hfew (by omega)) fun h => absurd hpending h
  · have hsome : (s.numProbePackets .appData != 0) = true := bne_iff_ne.mpr hpending
    rw [hsome, if_pos rfl] at hprobes
    have hcount : qs.length = _ := congrArg Prod.fst hprobes
    have hbytes : packetBytes qs = _ := congrArg Prod.snd hprobes
    dsimp only at hcount hbytes
    unfold ProbesFit
    rw [← hcount, ← hbytes]
    constructor
    · intro h _
      right
      exact Nat.lt_of_le_of_lt (Nat.le_add_right _ _) h
    · intro h
      by_cases hle : qs.length ≤ packetLimit
      · exact hfew hle
      · have hnil : ps.length = 0 := by omega
        rw [List.length_eq_zero_iff] at hnil
        rw [hnil]
        exact (h hpending).resolve_left hle

theorem writeOnce_written (env : DataPlane σ) (hlimit : packetLimit < 2 ^ 64) (s : WriteState σ)
    (hfit : ProbesFit env packetLimit s) :
    OnceWritten env packetLimit s (env.writeOnce packetLimit s).1 (env.writeOnce packetLimit s).2 := by
  obtain ⟨s₁, qs, ps, hwrite, hwrites, hiff⟩ := writeQuicDataToSocket_fits env packetLimit s
  have hle := hiff.mpr hfit
  have hfull := env.full_le_bytes ps fun p hp => (hwrites.probe p hp).2.1
  have hfirst : OnceWritten env packetLimit s
      (packetLimit - packetBytes (qs ++ ps) / env.udpSendPacketLen) s₁ := by
    refine ⟨?_, Nat.sub_le _ _, fun space => ?_, ?_, hwrites.wrapped⟩
    · rw [hwrites.packets, fullPackets_append s.packets]
      omega
    · rw [hwrites.attempted, List.mem_append]
      refine or_congr_right ?_
      split
      · next h => rw [List.mem_singleton, and_iff_left (bne_iff_ne.mp h)]
      · next h =>
          refine iff_of_false List.not_mem_nil fun hspace => h ?_
          exact bne_iff_ne.mpr hspace.2
    · rw [hwrites.numProbePackets]
      exact if_pos rfl
  unfold writeOnce
  rw [hwrite]
  dsimp only
  rw [subLimit_of_le s₁ hle hlimit]
  dsimp only
  generalize packetLimit - packetBytes (qs ++ ps) / env.udpSendPacketLen = left at hfirst ⊢
  split
  · obtain ⟨ds, happends, hlength⟩ := env.writePacketizationRequest_appends left s₁
    have hbytes : (env.writePacketizationRequest left s₁).totalBytesSent - s₁.totalBytesSent =
        packetBytes ds := by
      rw [happends.bytes]
      omega
    have hdsr : packetBytes ds / env.udpSendPacketLen ≤ left := by
      refine (Nat.div_le_div_right happends.le).trans ?_
      rw [Nat.mul_div_cancel _ env.udpSendPacketLen_pos]
      exact hlength
    have hdsrFull := @full_le_bytes _ env ds [] fun p hp => absurd hp List.not_mem_nil
    rw [List.nil_append] at hdsrFull
    rw [hbytes, subLimit_of_le _ hdsr (by have := hfirst.limit; omega)]
    refine ⟨?_, (Nat.sub_le _ _).trans hfirst.limit, ?_, ?_, ?_⟩
    · have hone := hfirst.full
      rw [happends.packets, fullPackets_append]
      omega
    · rw [happends.attempted]
      exact hfirst.attempted
    · rw [happends.numProbePackets]
      exact hfirst.noProbes
    · rw [happends.wrapped]
      exact hfirst.wrapped
  · exact hfirst

/-- The limit wraps where the probes do not fit, and what has wrapped stays so. -/
theorem writeOnce_wrapped (env : DataPlane σ) (packetLimit : Nat) (s : WriteState σ)
    (h : s.wrapped = true ∨ ¬ ProbesFit env packetLimit s) :
    (env.writeOnce packetLimit s).2.wrapped = true := by
  obtain ⟨s₁, qs, ps, hwrite, hwrites, hiff⟩ := writeQuicDataToSocket_fits env packetLimit s
  have hfirst : (s₁.wrapped ||
      decide (packetLimit < packetBytes (qs ++ ps) / env.udpSendPacketLen)) = true := by
    rw [hwrites.wrapped]
    cases h with
    | inl h => rw [h, Bool.true_or]
    | inr h => rw [decide_eq_true (Nat.not_le.mp fun hle => h (hiff.mp hle)), Bool.or_true]
  unfold writeOnce
  rw [hwrite]
  dsimp only
  obtain ⟨left, s₂, hsub, hwrapped⟩ := subLimit_eq s₁ packetLimit
    (packetBytes (qs ++ ps) / env.udpSendPacketLen)
  rw [hsub]
  rw [hfirst] at hwrapped
  dsimp only
  split
  · obtain ⟨ds, happends, -⟩ := env.writePacketizationRequest_appends left s₂
    obtain ⟨left', s₃, hsub', hwrapped'⟩ := subLimit_eq (env.writePacketizationRequest left s₂) left
      (((env.writePacketizationRequest left s₂).totalBytesSent - s₂.totalBytesSent) /
        env.udpSendPacketLen)
    rw [hsub', hwrapped', happends.wrapped, hwrapped, Bool.true_or]
  · exact hwrapped

theorem writeAppData_succ (env : DataPlane σ) (fuel : Nat) {packetLimit : Nat}
    (h : packetLimit ≠ 0) (s : WriteState σ) :
    env.writeAppData (fuel + 1) packetLimit s =
      if s.totalBytesSent = (env.writeOnce packetLimit s).2.totalBytesSent then
        (env.writeOnce packetLimit s).2
      else env.writeAppData fuel (env.writeOnce packetLimit s).1 (env.writeOnce packetLimit s).2 := by
  rw [writeAppData, if_neg h]

theorem writeAppData_wrapped (env : DataPlane σ) (fuel packetLimit : Nat) (s : WriteState σ)
    (h : s.wrapped = true) : (env.writeAppData fuel packetLimit s).wrapped = true := by
  induction fuel generalizing packetLimit s with
  | zero => exact h
  | succ fuel ih =>
    by_cases hzero : packetLimit = 0
    · rw [writeAppData, if_pos hzero]
      exact h
    · have hwrapped := env.writeOnce_wrapped packetLimit s (.inl h)
      rw [env.writeAppData_succ fuel hzero]
      generalize env.writeOnce packetLimit s = written at hwrapped ⊢
      split
      · exact hwrapped
      · exact ih _ _ hwrapped

/-- What the loop leaves. -/
structure AppWritten (env : DataPlane σ) (packetLimit : Nat) (s s' : WriteState σ) : Prop where
  full : env.fullPackets s'.packets ≤ packetLimit + env.fullPackets s.packets
  attempted : ∀ space, space ∈ s'.attempted ↔
    space ∈ s.attempted ∨ space = .appData ∧ s.numProbePackets .appData ≠ 0
  wrapped : s'.wrapped = s.wrapped

theorem AppWritten.same (hnone : s.numProbePackets .appData = 0) : AppWritten env packetLimit s s where
  full := Nat.le_add_left _ _
  attempted _ := (or_iff_left fun h => h.2 hnone).symm
  wrapped := rfl

theorem OnceWritten.once {packetLimit' : Nat} (h : OnceWritten env packetLimit s packetLimit' s') :
    AppWritten env packetLimit s s' where
  full := by
    have := h.full
    omega
  attempted := h.attempted
  wrapped := h.wrapped

/-- Behind the first time around no probes are left. -/
theorem OnceWritten.again {packetLimit' : Nat} {t : WriteState σ}
    (h : OnceWritten env packetLimit s packetLimit' s') (h' : AppWritten env packetLimit' s' t) :
    AppWritten env packetLimit s t where
  full := by
    have := h.full
    have := h.limit
    have := h'.full
    omega
  attempted space := by
    rw [h'.attempted, h.attempted, or_assoc]
    refine or_congr_right (or_iff_left ?_)
    exact fun hspace => hspace.2 h.noProbes
  wrapped := h'.wrapped.trans h.wrapped

/-- Without probes the limit is kept, however often the loop is run. -/
theorem writeAppData_noProbes (env : DataPlane σ) (fuel : Nat) {packetLimit : Nat}
    (hlimit : packetLimit < 2 ^ 64) {s : WriteState σ} (hnone : s.numProbePackets .appData = 0) :
    AppWritten env packetLimit s (env.writeAppData fuel packetLimit s) := by
  induction fuel generalizing packetLimit s with
  | zero => exact .same hnone
  | succ fuel ih =>
    by_cases hzero : packetLimit = 0
    · rw [writeAppData, if_pos hzero]
      exact .same hnone
    · have honce := env.writeOnce_written hlimit s fun h => absurd hnone h
      rw [env.writeAppData_succ fuel hzero]
      generalize env.writeOnce packetLimit s = written at honce ⊢
      split
      · exact honce.once
      · exact honce.again (ih (Nat.lt_of_le_of_lt honce.limit hlimit) honce.noProbes)

/-- With probes the limit must not be used up, and they must fit. -/
theorem writeAppData_written (env : DataPlane σ) (fuel : Nat) {packetLimit : Nat}
    (hlimit : packetLimit < 2 ^ 64) {s : WriteState σ}
    (hleft : s.numProbePackets .appData ≠ 0 → packetLimit ≠ 0)
    (hfit : ProbesFit env packetLimit s) :
    AppWritten env packetLimit s (env.writeAppData (fuel + 1) packetLimit s) := by
  by_cases hnone : s.numProbePackets .appData = 0
  · exact env.writeAppData_noProbes (fuel + 1) hlimit hnone
  · have honce := env.writeOnce_written hlimit s hfit
    rw [env.writeAppData_succ fuel (hleft hnone)]
    generalize env.writeOnce packetLimit s = written at honce ⊢
    split
    · exact honce.once
    · exact honce.again
        (env.writeAppData_noProbes fuel (Nat.lt_of_le_of_lt honce.limit hlimit) honce.noProbes)

/-- The loop as a whole. -/
theorem writeOneRtt_wrapped (env : DataPlane σ) (fuel : Nat) {s : WriteState σ}
    (hlimit : packetLimit < 2 ^ 64) (hs : s.wrapped = false) :
    (env.writeOneRtt (fuel + 1) packetLimit s).wrapped = false ↔
      (env.writeCipher .appData → packetLimit ≠ 0 → ProbesFit env packetLimit s) := by
  unfold writeOneRtt
  split
  · next hcipher =>
      constructor
      · intro h _ hleft
        by_contra hfit
        have hwrapped := env.writeOnce_wrapped packetLimit s (.inr hfit)
        rw [env.writeAppData_succ fuel hleft] at h
        generalize env.writeOnce packetLimit s = written at hwrapped h
        split at h
        · exact Bool.noConfusion (hwrapped.symm.trans h)
        · have hstill := env.writeAppData_wrapped fuel written.1 written.2 hwrapped
          exact Bool.noConfusion (hstill.symm.trans h)
      · intro h
        by_cases hleft : packetLimit = 0
        · rw [writeAppData, if_pos hleft]
          exact hs
        · have hwritten := env.writeAppData_written fuel hlimit (fun _ => hleft) (h hcipher hleft)
          exact hwritten.wrapped.trans hs
  · next hcipher => exact iff_of_true hs fun h => absurd h hcipher

/-- Where the limit has not wrapped. -/
theorem writeOneRtt_written (env : DataPlane σ) (fuel : Nat) {s : WriteState σ}
    (hlimit : packetLimit < 2 ^ 64)
    (hfit : env.writeCipher .appData → packetLimit ≠ 0 → ProbesFit env packetLimit s) :
    env.fullPackets (env.writeOneRtt (fuel + 1) packetLimit s).packets ≤
        packetLimit + env.fullPackets s.packets ∧
      ∀ space, space ∈ (env.writeOneRtt (fuel + 1) packetLimit s).attempted ↔
        space ∈ s.attempted ∨ space = .appData ∧ env.writeCipher .appData ∧ packetLimit ≠ 0 ∧
          s.numProbePackets .appData ≠ 0 := by
  unfold writeOneRtt
  split
  · next hcipher =>
      by_cases hleft : packetLimit = 0
      · rw [writeAppData, if_pos hleft]
        refine ⟨Nat.le_add_left _ _, fun space => ?_⟩
        exact (or_iff_left fun h => h.2.2.1 hleft).symm
      · have hwritten := env.writeAppData_written fuel hlimit (fun _ => hleft) (hfit hcipher hleft)
        refine ⟨hwritten.full, fun space => (hwritten.attempted space).trans ?_⟩
        rw [and_iff_right hcipher, and_iff_right hleft]
  · next hcipher =>
      refine ⟨Nat.le_add_left _ _, fun space => ?_⟩
      exact (or_iff_left fun h => hcipher h.2.1).symm

/-- The limit and the state behind a crypto space, if it can be written to. -/
def afterCrypto (env : DataPlane σ) (space : PacketNumberSpace) (packetLimit : Nat)
    (s : WriteState σ) : Nat × WriteState σ :=
  if env.writeCipher space then env.writeCryptoSpace space packetLimit s else (packetLimit, s)

/-- If probes are pending in the space, then there is something to attempt them with. -/
def ProbesTried (env : DataPlane σ) (space : PacketNumberSpace) (s : WriteState σ) : Prop :=
  env.writeCipher space → s.numProbePackets space ≠ 0 → triesProbes env space s

/-- What `afterCrypto` leaves. -/
structure CryptoLeft (env : DataPlane σ) (space : PacketNumberSpace) (packetLimit : Nat)
    (s : WriteState σ) (after : Nat × WriteState σ) : Prop where
  limit : after.1 ≤ packetLimit
  full : env.fullPackets after.2.packets = env.fullPackets s.packets
  attempted : ∀ other, other ∈ after.2.attempted ↔
    other ∈ s.attempted ∨ other = space ∧ env.writeCipher space ∧ triesProbes env space s
  others : ∀ other, other ≠ space → after.2.numProbePackets other = s.numProbePackets other
  wrapped : after.2.wrapped = s.wrapped

theorem afterCrypto_left (env : DataPlane σ) (space : PacketNumberSpace) (hspace : space ≠ .appData)
    (hlimit : packetLimit < 2 ^ 64) (s : WriteState σ) :
    CryptoLeft env space packetLimit s (env.afterCrypto space packetLimit s) := by
  unfold afterCrypto
  split
  · next hcipher =>
      have hwritten := env.writeCryptoSpace_written hspace hlimit s
      refine ⟨hwritten.limit, hwritten.full, fun other => ?_, hwritten.others, hwritten.wrapped⟩
      rw [hwritten.attempted, and_iff_right hcipher]
  · next hcipher =>
      refine ⟨Nat.le_refl _, rfl, fun other => ?_, fun _ _ => rfl, rfl⟩
      exact (or_iff_left fun h => hcipher h.2.1).symm

theorem writeHandshake_eq (env : DataPlane σ) (fuel packetLimit : Nat) (s : WriteState σ) :
    env.writeHandshake fuel packetLimit s = env.writeOneRtt fuel
      (env.afterCrypto .handshake packetLimit s).1 (env.afterCrypto .handshake packetLimit s).2 := by
  unfold writeHandshake afterCrypto
  split
  · generalize env.writeCryptoSpace .handshake packetLimit s = after
    obtain ⟨left, t⟩ := after
    dsimp only
    split
    · next hreturns =>
        unfold returns at hreturns
        rw [Bool.and_eq_true, beq_iff_eq] at hreturns
        rw [hreturns.1]
        unfold writeOneRtt
        split
        · cases fuel with
          | zero => rfl
          | succ fuel => rw [writeAppData, if_pos rfl]
        · rfl
    · rfl
  · rfl

theorem writeData_eq (env : DataPlane σ) (fuel packetLimit : Nat) (s : WriteState σ) :
    env.writeData fuel packetLimit s =
      if env.writeCipher .initial ∧ returns (env.afterCrypto .initial packetLimit s).1
          (env.afterCrypto .initial packetLimit s).2 then (env.afterCrypto .initial packetLimit s).2
      else env.writeHandshake fuel (env.afterCrypto .initial packetLimit s).1
        (env.afterCrypto .initial packetLimit s).2 := by
  unfold writeData afterCrypto
  split
  · next hcipher =>
      generalize env.writeCryptoSpace .initial packetLimit s = after
      simp only [hcipher, true_and]
  · next hcipher => rw [if_neg fun h => hcipher h.1]

/-- The limit does not wrap, the full-size packets of 1-RTT data are within it, and the pending probes
of every space that can be written to are attempted. -/
structure BudgetKept (env : DataPlane σ) (packetLimit : Nat) (s s' : WriteState σ) : Prop where
  wrapped : s'.wrapped = false
  full : env.fullPackets s'.packets ≤ packetLimit
  attempted : ∀ space, env.writeCipher space → s.numProbePackets space ≠ 0 → space ∈ s'.attempted

/-- The limit and the state behind both crypto spaces. -/
def afterBoth (env : DataPlane σ) (packetLimit : Nat) (s : WriteState σ) : Nat × WriteState σ :=
  env.afterCrypto .handshake (env.afterCrypto .initial packetLimit s).1
    (env.afterCrypto .initial packetLimit s).2

/-- When the limit is kept. -/
structure BudgetOk (env : DataPlane σ) (packetLimit : Nat) (s : WriteState σ) : Prop where
  initial : env.ProbesTried .initial s
  handshake : env.ProbesTried .handshake (env.afterCrypto .initial packetLimit s).2
  appData : env.writeCipher .appData → s.numProbePackets .appData ≠ 0 →
    (env.afterBoth packetLimit s).1 ≠ 0 ∧
      env.ProbesFit (env.afterBoth packetLimit s).1 (env.afterBoth packetLimit s).2

/-- An early return leaves no probes behind. -/
theorem none_of_returns (h : returns packetLimit s) (space : PacketNumberSpace) :
    packetLimit = 0 ∧ s.numProbePackets space = 0 := by
  unfold returns WriteState.anyProbePackets at h
  rw [Bool.and_eq_true, beq_iff_eq, Bool.not_eq_true', bne_eq_false_iff_eq] at h
  obtain ⟨hlimit, hsum⟩ := h
  refine ⟨hlimit, ?_⟩
  cases space with
  | initial => omega
  | handshake => omega
  | appData => omega

/-- A call that went through all the spaces. -/
theorem writeHandshake_kept (env : DataPlane σ) (fuel : Nat) (hlimit : packetLimit < 2 ^ 64)
    {s₀ : WriteState σ} (hfull : env.fullPackets s₀.packets = 0) (hattempted : s₀.attempted = [])
    (hwrapped : s₀.wrapped = false) :
    BudgetKept env packetLimit s₀ (env.writeHandshake (fuel + 1)
        (env.afterCrypto .initial packetLimit s₀).1 (env.afterCrypto .initial packetLimit s₀).2) ↔
      BudgetOk env packetLimit s₀ := by
  have hinitial := env.afterCrypto_left .initial (by decide) hlimit s₀
  have hlimit₁ := Nat.lt_of_le_of_lt hinitial.limit hlimit
  have hhandshake := env.afterCrypto_left .handshake (by decide) hlimit₁
    (env.afterCrypto .initial packetLimit s₀).2
  have hlimit₂ := Nat.lt_of_le_of_lt hhandshake.limit hlimit₁
  rw [writeHandshake_eq]
  have hok : BudgetOk env packetLimit s₀ ↔ env.ProbesTried .initial s₀ ∧
      env.ProbesTried .handshake (env.afterCrypto .initial packetLimit s₀).2 ∧
      (env.writeCipher .appData → s₀.numProbePackets .appData ≠ 0 →
        (env.afterBoth packetLimit s₀).1 ≠ 0 ∧
          env.ProbesFit (env.afterBoth packetLimit s₀).1 (env.afterBoth packetLimit s₀).2) :=
    ⟨fun h => ⟨h.initial, h.handshake, h.appData⟩, fun h => ⟨h.1, h.2.1, h.2.2⟩⟩
  rw [hok]
  unfold afterBoth
  have happ : (env.afterCrypto .handshake (env.afterCrypto .initial packetLimit s₀).1
      (env.afterCrypto .initial packetLimit s₀).2).2.numProbePackets .appData =
        s₀.numProbePackets .appData :=
    (hhandshake.others .appData (by decide)).trans (hinitial.others .appData (by decide))
  have hpending : (env.afterCrypto .initial packetLimit s₀).2.numProbePackets .handshake =
      s₀.numProbePackets .handshake := hinitial.others .handshake (by decide)
  generalize env.afterCrypto .initial packetLimit s₀ = s₁ at *
  generalize env.afterCrypto .handshake s₁.1 s₁.2 = s₂ at *
  have hiff := env.writeOneRtt_wrapped fuel hlimit₂
    (hhandshake.wrapped.trans (hinitial.wrapped.trans hwrapped))
  have hwritten := fun hfit => env.writeOneRtt_written fuel (s := s₂.2) hlimit₂ hfit
  generalize env.writeOneRtt (fuel + 1) s₂.1 s₂.2 = s' at hiff hwritten ⊢
  have hmem : ∀ space, space ∈ s₂.2.attempted ↔
      (space = .initial ∧ env.writeCipher .initial ∧ env.triesProbes .initial s₀) ∨
        space = .handshake ∧ env.writeCipher .handshake ∧ env.triesProbes .handshake s₁.2 := by
    intro space
    rw [hhandshake.attempted, hinitial.attempted, hattempted, List.mem_nil_iff, false_or]
  constructor
  · intro hkept
    have hfit := hiff.mp hkept.wrapped
    obtain ⟨-, hattempts⟩ := hwritten hfit
    refine ⟨fun hcipher hprobes => ?_, fun hcipher hprobes => ?_, fun hcipher hprobes => ?_⟩
    · have h := (hattempts .initial).mp (hkept.attempted .initial hcipher hprobes)
      rw [hmem] at h
      simpa [hcipher] using h
    · rw [hpending] at hprobes
      have h := (hattempts .handshake).mp (hkept.attempted .handshake hcipher hprobes)
      rw [hmem] at h
      simpa [hcipher] using h
    · have h := (hattempts .appData).mp (hkept.attempted .appData hcipher hprobes)
      rw [hmem] at h
      have hleft : s₂.1 ≠ 0 := by
        intro hzero
        simp [hzero] at h
      exact ⟨hleft, hfit hcipher hleft⟩
  · rintro ⟨hinitialTried, hhandshakeTried, happData⟩
    have hfit : env.writeCipher .appData → s₂.1 ≠ 0 → env.ProbesFit s₂.1 s₂.2 := by
      intro hcipher _ hprobes
      rw [happ] at hprobes
      exact (happData hcipher hprobes).2 (happ.trans_ne hprobes)
    obtain ⟨hfullWritten, hattempts⟩ := hwritten hfit
    refine ⟨hiff.mpr hfit, ?_, fun space hcipher hprobes => ?_⟩
    · rw [hhandshake.full, hinitial.full, hfull] at hfullWritten
      have := hinitial.limit
      have := hhandshake.limit
      omega
    · rw [hattempts, hmem]
      cases space with
      | initial => exact .inl (.inl ⟨rfl, hcipher, hinitialTried hcipher hprobes⟩)
      | handshake =>
        exact .inl (.inr ⟨rfl, hcipher, hhandshakeTried hcipher (hpending.trans_ne hprobes)⟩)
      | appData =>
        refine .inr ⟨rfl, hcipher, (happData hcipher hprobes).1, happ.trans_ne hprobes⟩

/-- With the early return behind the Initial packets no other probes were pending. -/
theorem writeInitial_kept (env : DataPlane σ) (hlimit : packetLimit < 2 ^ 64) {s₀ : WriteState σ}
    (hfull : env.fullPackets s₀.packets = 0) (hattempted : s₀.attempted = [])
    (hwrapped : s₀.wrapped = false)
    (hreturns : returns (env.afterCrypto .initial packetLimit s₀).1
      (env.afterCrypto .initial packetLimit s₀).2) :
    BudgetKept env packetLimit s₀ (env.afterCrypto .initial packetLimit s₀).2 ↔
      BudgetOk env packetLimit s₀ := by
  have hinitial := env.afterCrypto_left .initial (by decide) hlimit s₀
  have hnone := none_of_returns hreturns
  have happ : s₀.numProbePackets .appData = 0 := by
    rw [← hinitial.others .appData (by decide)]
    exact (hnone .appData).2
  have hpending : s₀.numProbePackets .handshake = 0 := by
    rw [← hinitial.others .handshake (by decide)]
    exact (hnone .handshake).2
  constructor
  · intro hkept
    refine ⟨fun hcipher hprobes => ?_, fun _ hprobes => absurd (hnone .handshake).2 hprobes,
      fun _ hprobes => absurd happ hprobes⟩
    have h := hkept.attempted .initial hcipher hprobes
    rw [hinitial.attempted, hattempted] at h
    simpa [hcipher] using h
  · intro hok
    refine ⟨hinitial.wrapped.trans hwrapped, ?_, fun space hcipher hprobes => ?_⟩
    · rw [hinitial.full, hfull]
      exact Nat.zero_le _
    · rw [hinitial.attempted]
      cases space with
      | initial => exact .inr ⟨rfl, hcipher, hok.initial hcipher hprobes⟩
      | handshake => exact absurd hpending hprobes
      | appData => exact absurd happ hprobes

theorem budgetKept_iff (env : DataPlane σ) (fuel : Nat) (limit : UInt64) (conn : σ)
    (numProbePackets : PacketNumberSpace → Nat) (totalBytesSent : Nat) :
    BudgetKept env limit.toNat (.start conn numProbePackets totalBytesSent)
        (env.writeData (fuel + 1) limit.toNat (.start conn numProbePackets totalBytesSent)) ↔
      BudgetOk env limit.toNat (.start conn numProbePackets totalBytesSent) := by
  have hlimit : limit.toNat < 2 ^ 64 := limit.toNat_lt
  rw [writeData_eq]
  split
  · next h => exact env.writeInitial_kept hlimit rfl rfl rfl h.2
  · exact env.writeHandshake_kept fuel hlimit rfl rfl rfl

/-- A connection with nothing but full-size packets of 1-RTT data to send, as many as it counts. -/
def fullSize : DataPlane Nat where
  udpSendPacketLen := 1200
  batchSize := 16
  maxBatchSize := 16
  enableWritableBytesLimit := false
  writeCipher space := space == .appData
  cipherOverhead _ := 16
  retransmissionBuffer _ _ := 0
  packetCount _ _ := 0
  cryptoHasData _ _ := false
  toWriteAcks _ _ := false
  canSendAckControlFrames _ := false
  writeLoopTimeLimit _ := false
  congestionControlWritableBytes _ := 12000
  probePacketWritableBytes _ := 12000
  unlimitedWritableBytes _ := 2 ^ 64 - 1
  increaseNextPacketNum _ conn := conn
  requestProbe _ conn := conn
  hasData _ conn := conn != 0
  build _ _ conn := .built (conn - 1) 1200 true
  hasPendingData _ := false
  buildDsr _ conn := .buildFailure conn
  udpSendPacketLen_pos := by decide
  build_le _ _ _ _ _ _ h := by
    cases h
    exact Nat.le_refl _
  buildDsr_le _ _ _ _ _ h := by cases h

/-- Seven packets to send and two of them as probes. -/
def twoProbes : WriteState Nat := .start 7 (fun space => if space = .appData then 2 else 0) 0

/-- With a limit of one packet the limit wraps behind the two probes, and the five others go out. With a
limit of 0 no probe is attempted. -/
theorem budget_not_kept :
    (fullSize.fullPackets (fullSize.writeData 3 1 twoProbes).packets = 5 ∧
      ¬ BudgetKept fullSize 1 twoProbes (fullSize.writeData 3 1 twoProbes)) ∧
    (fullSize.writeData 3 0 twoProbes).attempted = [] ∧
      ¬ BudgetKept fullSize 0 twoProbes (fullSize.writeData 3 0 twoProbes) := by
  have hfull : fullSize.fullPackets (fullSize.writeData 3 1 twoProbes).packets = 5 := by
    decide +kernel
  have hattempted : (fullSize.writeData 3 0 twoProbes).attempted = [] := by decide +kernel
  refine ⟨⟨hfull, fun h => ?_⟩, hattempted, fun h => ?_⟩
  · have := h.full
    omega
  · have := h.attempted .appData rfl (by decide)
    rw [hattempted] at this
    exact List.not_mem_nil this

end DataPlane

end MasqueQuic
