/-
The bytes in flight over whole runs.

Each step keeps `InflightConn.Inv`: the bytes in flight are those of the outstanding packets and
of the packets that a Retry has dropped without telling the congestion controller.
-/

import MasqueQuic.Quic.InflightQueue

namespace MasqueQuic

variable {σ ε : Type} {w : PacketEvent → Nat} {h : Handlers σ ε} {c : SendConn σ}

/-! ### The congestion controller -/

/-- No subtraction from the bytes in flight has gone below zero. -/
def NoUnderflow (f : InflightFailure ε) : Prop := f ≠ .underflow

theorem ends_liftQueue {α : Type} {x : Except (SendFailure ε) α} {Q : α → Prop}
    (hx : Ends (fun _ => True) x Q) : Ends NoUnderflow (liftQueue x) Q := by
  cases x with
  | error f => exact .error nofun
  | ok a => exact .ok hx

theorem collectLost_drops
    {f : SendConn (σ × List OutstandingPacket) →
      Except (SendFailure ε) (SendConn (σ × List OutstandingPacket))}
    (hf : ∀ c : SendConn (σ × List OutstandingPacket), Ends (fun _ => True) (f c)
      fun c' => ∃ lost, c'.rest.2 = c.rest.2 ++ lost ∧ Drops w c c' (bytesOf w lost)) :
    Ends NoUnderflow (collectLost f c) (fun r => Drops w c r.1 (bytesOf w r.2)) := by
  unfold collectLost
  refine (ends_liftQueue (hf _)).bind fun c' hc' => .ok ?_
  obtain ⟨lost, hlost, hdrops⟩ := hc'
  rw [List.nil_append] at hlost
  rw [hlost]
  exact ⟨hdrops.sorted, hdrops.numbered, hdrops.bytes⟩

theorem addLostPackets_sum {lost : List OutstandingPacket} {n : Nat} :
    Ends NoUnderflow (lost.foldlM (addLostPacket w) n : Except (InflightFailure ε) Nat)
      (fun m => m = n + bytesOf w lost) := by
  induction lost generalizing n with
  | nil => exact .ok rfl
  | cons p lost ih =>
    rw [List.foldlM_cons]
    refine Ends.bind (P := fun m => m = n + w p.ownEvent) ?_ fun m hm => ?_
    · exact Ends.ite (fun _ => .error nofun) fun _ => .ok rfl
    · refine ih.imp fun k hk => ?_
      rw [hk, hm, bytesOf_cons, Nat.add_assoc]

theorem lossEventBytes_sum {lost : List OutstandingPacket} :
    Ends NoUnderflow (lossEventBytes w lost : Except (InflightFailure ε) (Option Nat))
      (fun lossEvent => lossEvent.getD 0 = bytesOf w lost) := by
  unfold lossEventBytes
  refine Ends.ite (fun hnil => .ok ?_) fun _ => ?_
  · rw [hnil]
    rfl
  · refine addLostPackets_sum.bind fun m hm => .ok ?_
    rw [Option.getD_some, hm, Nat.zero_add]

variable {inflightBytes bytes : Nat}

theorem onRemoveBytesFromInflight_ends (hle : bytes ≤ inflightBytes) :
    Ends NoUnderflow
      (onRemoveBytesFromInflight inflightBytes bytes : Except (InflightFailure ε) Nat)
      (fun n => n + bytes = inflightBytes) := by
  unfold onRemoveBytesFromInflight
  rw [if_neg (Nat.not_lt.mpr hle)]
  exact .ok (Nat.sub_add_cancel hle)

theorem onPacketLoss_ends {lossEvent : Option Nat} (hle : lossEvent.getD 0 ≤ inflightBytes) :
    Ends NoUnderflow (onPacketLoss lossEvent inflightBytes : Except (InflightFailure ε) Nat)
      (fun n => n + lossEvent.getD 0 = inflightBytes) := by
  cases lossEvent with
  | none => exact .ok rfl
  | some lostBytes => exact onRemoveBytesFromInflight_ends hle

theorem onPacketAcked_ends {ack : Option AckedBytes}
    (hle : (ack.map (·.ackedBytes)).getD 0 ≤ inflightBytes) :
    Ends NoUnderflow (onPacketAcked ack inflightBytes : Except (InflightFailure ε) Nat)
      (fun n => n + (ack.map (·.ackedBytes)).getD 0 = inflightBytes) := by
  cases ack with
  | none => exact .ok rfl
  | some ack => exact onRemoveBytesFromInflight_ends hle

/-- Whatever the order in which a controller deals with the two. -/
theorem onPacketAckOrLoss_ends (type : CongestionControlType) {ack : Option AckedBytes}
    {lossEvent : Option Nat}
    (hnews : ∀ a, ack = some a → a.largestNewlyAckedPacket = none → a.ackedBytes = 0)
    (hle : (ack.map (·.ackedBytes)).getD 0 + lossEvent.getD 0 ≤ inflightBytes) :
    Ends NoUnderflow
      (type.onPacketAckOrLoss ack lossEvent inflightBytes : Except (InflightFailure ε) Nat)
      (fun n => n + ((ack.map (·.ackedBytes)).getD 0 + lossEvent.getD 0) = inflightBytes) := by
  have hfilter : ((ack.filter (·.largestNewlyAckedPacket.isSome)).map (·.ackedBytes)).getD 0 =
      (ack.map (·.ackedBytes)).getD 0 := by
    cases ack with
    | none => rfl
    | some a =>
      cases hnone : a.largestNewlyAckedPacket with
      | none => simp [Option.filter, hnone, hnews a rfl hnone]
      | some newly => simp [Option.filter, hnone]
  have hlossFirst : Ends NoUnderflow
      (onPacketLoss lossEvent inflightBytes >>= fun n =>
        onPacketAcked (ack.filter (·.largestNewlyAckedPacket.isSome)) n :
        Except (InflightFailure ε) Nat)
      (fun n => n + ((ack.map (·.ackedBytes)).getD 0 + lossEvent.getD 0) = inflightBytes) := by
    refine (onPacketLoss_ends (by omega)).bind fun m hm => ?_
    refine (onPacketAcked_ends (by omega)).imp fun n hn => ?_
    omega
  have hackFirst : Ends NoUnderflow
      (onPacketAcked ack inflightBytes >>= fun n => onPacketLoss lossEvent n :
        Except (InflightFailure ε) Nat)
      (fun n => n + ((ack.map (·.ackedBytes)).getD 0 + lossEvent.getD 0) = inflightBytes) := by
    refine (onPacketAcked_ends (by omega)).bind fun m hm => ?_
    refine (onPacketLoss_ends (by omega)).imp fun n hn => ?_
    omega
  cases type with
  | cubic => exact hlossFirst
  | newReno => exact hlossFirst
  | copa => exact hlossFirst
  | copa2 => exact hlossFirst
  | bbr => exact hackFirst
  | bbr2 => exact hackFirst

/-! ### Steps -/

namespace InflightConn

/-- The bytes of the outstanding packets that are not declared lost. -/
def outstandingBytes (c : InflightConn σ) : Nat :=
  liveBytes c.encodedSizes c.conn.outstandings.packets

/-- `leaked` bytes are counted for packets that have left the queue. -/
structure Inv (c : InflightConn σ) (leaked : Nat) : Prop where
  sorted : SortedPackets c.conn.outstandings.packets
  numbered : NumbersUsed c.conn.outstandings.packets c.conn.ackStates
  bytes : c.inflightBytes = c.outstandingBytes + leaked
  bounded : c.inflightBytes ≤ uint64Max

variable {c : InflightConn σ} {leaked : Nat} {env : AlarmEnv σ ε}

/-- Packets of `n` bytes have left the queue or are lost, and their bytes are taken away. -/
theorem Inv.drops {conn : SendConn σ} {n inflightBytes : Nat}
    (hc : c.Inv leaked) (hdrops : Drops c.encodedSizes c.conn conn n)
    (hbytes : inflightBytes + n = c.inflightBytes) :
    Inv { c with conn, inflightBytes } leaked where
  sorted := hdrops.sorted hc.sorted
  numbered := hdrops.numbered hc.numbered
  bytes := by
    have hinv := hc.bytes
    unfold outstandingBytes at hinv ⊢
    rw [hdrops.bytes] at hinv
    dsimp only
    omega
  bounded := by
    have hinv := hc.bounded
    dsimp only
    omega

theorem Inv.le_of_drops {conn : SendConn σ} {n : Nat} (hc : c.Inv leaked)
    (hdrops : Drops c.encodedSizes c.conn conn n) : n ≤ c.inflightBytes := by
  have hinv := hc.bytes
  have hbytes := hdrops.bytes
  unfold outstandingBytes at hinv
  omega

theorem Inv.updateConnection (hc : c.Inv leaked) (h : Handlers σ ε)
    (packetEvent : Option PacketEvent) (packet : RegularQuicWritePacket) (sentTime : Nat)
    (isDSRPacket : Bool) (encodedSize : Nat) :
    Ends NoUnderflow
      (c.updateConnection h packetEvent packet sentTime isDSRPacket encodedSize)
      (fun c' => c'.Inv leaked) := by
  unfold InflightConn.updateConnection
  refine (ends_liftQueue getAckState_of_ok).bind fun a ha => ?_
  refine (ends_liftQueue (updateConnection_queue ha)).bind fun conn hconn => ?_
  obtain ⟨hstates, hpackets⟩ := hconn
  have hset := @drops_set σ c.encodedSizes _ c.conn a { a with nextPacketNum := a.nextPacketNum + 1 }
    ha (Nat.le_succ _)
  have hnumbered := hset.numbered hc.numbered
  by_cases htracked : packet.tracked = true
  · rw [if_neg (not_not.mpr htracked)]
    rw [if_pos htracked] at hpackets
    unfold addToInflight
    have hbounded := hc.bounded
    refine Ends.bind (P := fun n => n = c.inflightBytes + encodedSize ∧ n ≤ uint64Max)
      (Ends.ite (fun _ => .error nofun) fun hfits => .ok ⟨rfl, by omega⟩) fun n hn => .ok ?_
    have hperm : conn.outstandings.packets.Perm (packet.outstanding a.nextPacketNum sentTime
        isDSRPacket packetEvent :: c.conn.outstandings.packets) := by
      rw [hpackets]
      exact insertPosition_perm _ _
    refine ⟨?_, fun p hp b hb => ?_, ?_, hn.2⟩
    · dsimp only
      rw [hpackets]
      exact insertPosition_sorted hc.sorted _
    · dsimp only at hp hb
      rw [hstates] at hb
      rcases List.mem_cons.mp (hperm.mem_iff.mp hp) with rfl | hp
      · change (c.conn.ackStates.set packet.packetNumberSpace _).get packet.packetNumberSpace = _
          at hb
        rw [AckStates.get_set, if_pos rfl] at hb
        cases hb
        exact Nat.lt_succ_self _
      · exact hnumbered p hp b hb
    · have hold : ∀ p ∈ c.conn.outstandings.packets, Function.update c.encodedSizes
          ⟨packet.packetNumberSpace, a.nextPacketNum⟩ encodedSize p.ownEvent =
            c.encodedSizes p.ownEvent := by
        intro p hp
        refine Function.update_of_ne (fun heq => ?_) _ _
        have hspace : p.packetNumberSpace = packet.packetNumberSpace :=
          congrArg (·.packetNumberSpace) heq
        have hnum : p.packetNum = a.nextPacketNum := congrArg (·.packetNumber) heq
        have hlt := hc.numbered p hp a (hspace ▸ ha)
        omega
      have hinv := hc.bytes
      unfold outstandingBytes at hinv ⊢
      dsimp only
      rw [liveBytes_perm hperm, liveBytes_cons_of_live rfl, liveBytes_congr hold, hn.1, hinv]
      have hnew : Function.update c.encodedSizes ⟨packet.packetNumberSpace, a.nextPacketNum⟩
          encodedSize (packet.outstanding a.nextPacketNum sentTime isDSRPacket
            packetEvent).ownEvent = encodedSize := Function.update_self _ _ _
      rw [hnew]
      omega
  · rw [if_pos htracked]
    rw [if_neg htracked] at hpackets
    refine .ok ⟨?_, ?_, ?_, hc.bounded⟩
    · dsimp only
      rw [hpackets]
      exact hc.sorted
    · dsimp only
      rw [hpackets, hstates]
      exact hnumbered
    · unfold outstandingBytes
      dsimp only
      rw [hpackets]
      exact hc.bytes

theorem Inv.clonePacket (hc : c.Inv leaked) (h : Handlers σ ε) (index : Nat)
    (packet : RegularQuicWritePacket) (sent : Option (Nat × Nat)) :
    Ends NoUnderflow (c.clonePacket h index packet sent) (fun c' => c'.Inv leaked) := by
  unfold InflightConn.clonePacket
  cases hindex : c.conn.outstandings.packets[index]? with
  | none => exact .ok hc
  | some p =>
    refine Ends.ite (fun _ => ?_) fun _ => .ok hc
    have hclone : Inv { c with
        conn.outstandings := (cloneOutstandingPacket c.conn.outstandings index p).2 } leaked :=
      hc.drops (cloneOutstandingPacket_drops c.encodedSizes hindex) rfl
    cases sent with
    | none => exact .ok hclone
    | some sent => exact hclone.updateConnection h _ packet sent.1 false sent.2

theorem Inv.processAckFrame (hc : c.Inv leaked) (h : Handlers σ ε) (pnSpace : PacketNumberSpace)
    (frame : ReadAckFrame) (times : AckTimes) :
    Ends NoUnderflow (c.processAckFrame h pnSpace frame times) (fun c' => c'.Inv leaked) := by
  unfold InflightConn.processAckFrame
  refine (ends_liftQueue (ackOutstandings_drops c.encodedSizes hc.sorted)).bind fun r hr => ?_
  obtain ⟨conn₁, newly, acked⟩ := r
  obtain ⟨hacked, hnews⟩ := hr
  dsimp only at hacked hnews ⊢
  refine (collectLost_drops fun c' => handleAckForLoss_drops c.encodedSizes newly acked _).bind
    fun r hlost => ?_
  obtain ⟨conn₂, lost⟩ := r
  refine lossEventBytes_sum.bind fun lossEvent hevent => ?_
  have hdrops := hacked.trans hlost
  have hle := hc.le_of_drops hdrops
  -- the sum does not wrap around, as its bytes are among those in flight
  have hsum : ackedBytesOf c.encodedSizes pnSpace acked =
      (acked.map fun a => c.encodedSizes ⟨pnSpace, a.packetNum⟩).sum := by
    refine Nat.mod_eq_of_lt ?_
    have hbounded := hc.bounded
    unfold uint64Max at hbounded
    omega
  have hzero : newly = none → ackedBytesOf c.encodedSizes pnSpace acked = 0 := by
    intro hnone
    rw [hsum, hnews hnone]
    rfl
  rw [← hsum, ← hevent] at hdrops hle
  refine Ends.bind (P := fun n => n + (ackedBytesOf c.encodedSizes pnSpace acked +
    lossEvent.getD 0) = c.inflightBytes) ?_ fun n hn => ?_
  · refine Ends.ite (fun _ => ?_) fun hnothing => .ok ?_
    · refine onPacketAckOrLoss_ends _ (fun a ha hnone => ?_) hle
      cases ha
      exact hzero hnone
    · rw [not_or, Option.not_isSome_iff_eq_none, Option.not_isSome_iff_eq_none] at hnothing
      rw [hzero hnothing.1, hnothing.2]
      rfl
  · refine (ends_liftQueue (clearOldOutstandingPackets_drops c.encodedSizes _)).bind
      fun conn₃ hold => .ok ?_
    exact hc.drops (hdrops.trans hold) hn

theorem Inv.onLossTimer (hc : c.Inv leaked) (h : Handlers σ ε) (pnSpace : PacketNumberSpace)
    (now : Nat) :
    Ends NoUnderflow (c.onLossTimer h pnSpace now) (fun c' => c'.Inv leaked) := by
  unfold InflightConn.onLossTimer
  refine (collectLost_drops fun c' => onLossTimer_drops c.encodedSizes now).bind fun r hlost => ?_
  obtain ⟨conn, lost⟩ := r
  refine lossEventBytes_sum.bind fun lossEvent hevent => ?_
  have hle := hc.le_of_drops hlost
  rw [← hevent] at hlost hle
  refine Ends.bind (P := fun n => n + lossEvent.getD 0 = c.inflightBytes) ?_
    fun n hn => .ok (hc.drops hlost hn)
  refine Ends.ite (fun _ => ?_) fun hnothing => .ok ?_
  · have hends := @onPacketAckOrLoss_ends ε c.inflightBytes c.congestionController none lossEvent
      nofun (by simpa using hle)
    simpa using hends
  · rw [Option.not_isSome_iff_eq_none] at hnothing
    rw [hnothing]
    rfl

theorem Inv.markZeroRttPacketsLost (hc : c.Inv leaked) (h : Handlers σ ε) :
    Ends NoUnderflow (c.markZeroRttPacketsLost h) (fun c' => c'.Inv leaked) := by
  unfold InflightConn.markZeroRttPacketsLost
  refine (collectLost_drops fun c' => markZeroRttPacketsLost_drops c.encodedSizes).bind
    fun r hlost => ?_
  obtain ⟨conn, lost⟩ := r
  refine lossEventBytes_sum.bind fun lossEvent hevent => ?_
  have hle := hc.le_of_drops hlost
  rw [← hevent] at hlost hle
  exact (onPacketLoss_ends hle).bind fun n hn => .ok (hc.drops hlost hn)

/-- The state that has no bearing on the bytes may change. -/
theorem Inv.withRest (hc : c.Inv leaked) (rest : σ) : Inv { c with conn.rest := rest } leaked :=
  ⟨hc.sorted, hc.numbered, hc.bytes, hc.bounded⟩

theorem Inv.implicitAckCryptoStream (hc : c.Inv leaked) (env : AlarmEnv σ ε)
    (space : PacketNumberSpace) (times : AckTimes) :
    Ends NoUnderflow (c.implicitAckCryptoStream env space times) (fun c' => c'.Inv leaked) := by
  unfold InflightConn.implicitAckCryptoStream
  refine (ends_liftQueue Ends.any).bind fun _ _ => ?_
  cases (c.conn.outstandings.packets.filter (own space)).map (·.packetNum) with
  | nil => exact .ok hc
  | cons first others =>
    refine (hc.processAckFrame _ space _ times).bind fun c' hc' => ?_
    exact (ends_liftQueue Ends.any).bind fun rest _ => .ok (hc'.withRest rest)

/-! ### Retry -/

/-- What `undoAllClientStateForRetry` copies over. -/
def isZeroRtt (p : OutstandingPacket) : Bool := p.protectionType == .zeroRtt

theorem foldl_copyZeroRtt (packets : List OutstandingPacket) (new : OutstandingsInfo) :
    (packets.foldl OutstandingsInfo.copyZeroRtt new).packets =
      new.packets ++ packets.filter isZeroRtt := by
  induction packets generalizing new with
  | nil => simp
  | cons p packets ih =>
    rw [List.foldl_cons, ih]
    by_cases hzero : p.protectionType = .zeroRtt
    · have hspace : p.packetNumberSpace = .appData := by
        simp [OutstandingPacket.packetNumberSpace, hzero, protectionTypeToPacketNumberSpace]
      simp [OutstandingsInfo.copyZeroRtt, isZeroRtt, hzero, hspace]
    · simp [OutstandingsInfo.copyZeroRtt, isZeroRtt, hzero]

/-- The bytes of the packets that a Retry drops without telling the controller. -/
def retryLeak (c : InflightConn σ) : Nat :=
  liveBytes c.encodedSizes (c.conn.outstandings.packets.filter fun p => !isZeroRtt p)

theorem retryAckStates_next {c : SendConn σ} :
    Ends (fun _ => True) (retryAckStates c : Except (SendFailure ε) AckStates) (fun ackStates =>
      ∀ space a', ackStates.get space = some a' → ∃ a, c.ackStates.get space = some a ∧
        a.nextPacketNum ≤ a'.nextPacketNum) := by
  unfold retryAckStates
  refine getAckState_of_ok.bind fun a ha => getAckState_of_ok.bind fun b hb => .ok ?_
  intro space a' ha'
  cases space with
  | initial =>
    cases ha'
    exact ⟨a, ha, le_rfl⟩
  | handshake =>
    cases ha'
    exact ⟨b, hb, le_rfl⟩
  | appData =>
    cases ha'
    exact ⟨_, rfl, le_rfl⟩

theorem Inv.undoAllClientStateForRetry (hc : c.Inv leaked) (h : Handlers σ ε) (undo : σ → σ) :
    Ends NoUnderflow (c.undoAllClientStateForRetry h undo)
      (fun c' => c'.Inv (leaked + c.retryLeak)) := by
  unfold InflightConn.undoAllClientStateForRetry
  refine (ends_liftQueue retryAckStates_next).bind fun ackStates hnext => ?_
  refine Inv.markZeroRttPacketsLost ?_ h
  have hcopied : (c.conn.outstandings.packets.foldl OutstandingsInfo.copyZeroRtt .empty).packets =
      c.conn.outstandings.packets.filter isZeroRtt := foldl_copyZeroRtt _ _
  refine ⟨?_, fun p hp a' ha' => ?_, ?_, hc.bounded⟩
  · dsimp only
    rw [hcopied]
    exact hc.sorted.sublist List.filter_sublist
  · dsimp only at hp ha'
    rw [hcopied] at hp
    obtain ⟨a, ha, hle⟩ := hnext _ a' ha'
    exact (hc.numbered p (List.mem_of_mem_filter hp) a ha).trans_le hle
  · have hinv := hc.bytes
    unfold outstandingBytes at hinv ⊢
    unfold retryLeak
    dsimp only
    rw [hcopied, hinv, liveBytes_filter isZeroRtt]
    omega

/-! ### Runs -/

/-- The bytes that a step leaves behind. -/
def leak (c : InflightConn σ) : InflightEvent σ ε → Nat
  | .retry _ => c.retryLeak
  | _ => 0

theorem Inv.step (hc : c.Inv leaked) (env : AlarmEnv σ ε) (e : InflightEvent σ ε) :
    Ends NoUnderflow (c.step env e) (fun c' => c'.Inv (leaked + c.leak e)) := by
  cases e with
  | send packet sentTime encodedSize => exact hc.updateConnection _ _ _ _ _ _
  | sendDsr frames sentTime encodedSize => exact hc.updateConnection _ _ _ _ _ _
  | clone index packet sent => exact hc.clonePacket _ _ _ _
  | ack pnSpace frame times => exact hc.processAckFrame _ _ _ _
  | implicitAck space times => exact hc.implicitAckCryptoStream _ _ _
  | lossTimer pnSpace now => exact hc.onLossTimer _ _ _
  | zeroRttRejected => exact hc.markZeroRttPacketsLost _
  | retry undo => exact hc.undoAllClientStateForRetry _ _
  | setCongestionControl type => exact .ok ⟨hc.sorted, hc.numbered, hc.bytes, hc.bounded⟩
  | resetAckState space =>
    refine .ok ⟨hc.sorted, fun p hp a ha => ?_, hc.bytes, hc.bounded⟩
    exact hc.numbered p hp a (AckStates.get_of_reset ha)
  | tune lossState transportSettings =>
    exact .ok ⟨hc.sorted, hc.numbered, hc.bytes, hc.bounded⟩
  | other f =>
    exact (ends_liftQueue Ends.any).bind fun rest _ => .ok (hc.withRest rest)

/-- Nothing has been sent. -/
structure IsNew (c : InflightConn σ) : Prop where
  packets : c.conn.outstandings = .empty
  inflightBytes : c.inflightBytes = 0

theorem IsNew.inv (hc : c.IsNew) : c.Inv 0 := by
  have hnil : c.conn.outstandings.packets = [] := congrArg (·.packets) hc.packets
  refine ⟨?_, fun p hp => ?_, ?_, ?_⟩
  · rw [hnil]
    exact List.Pairwise.nil
  · rw [hnil] at hp
    cases hp
  · rw [outstandingBytes, hnil, hc.inflightBytes]
    rfl
  · rw [hc.inflightBytes]
    exact Nat.zero_le _

/-- In every run the bytes in flight are those of the outstanding packets and what has leaked,
and nothing that is not in flight is taken away. -/
theorem inv_run {c₀ : InflightConn σ} (hc₀ : c₀.IsNew) (events : List (InflightEvent σ ε)) :
    Ends NoUnderflow (events.foldlM (InflightConn.step env) c₀)
      (fun c => ∃ leaked, c.Inv leaked) :=
  Ends.foldlM (I := fun (c : InflightConn σ) _ => ∃ leaked, c.Inv leaked)
    (fun _ e _ hc => (hc.choose_spec.step env e).imp fun _ hc' => ⟨_, hc'⟩) ⟨0, hc₀.inv⟩

/-- A Retry that is carried through finds only 0-RTT packets among those outstanding. (A packet
of size zero, which is not a packet, would do no harm.) -/
def RetryFindsZeroRtt (env : AlarmEnv σ ε) (c : InflightConn σ) (e : InflightEvent σ ε) : Prop :=
  ∀ undo, e = .retry undo → ∀ c', c.step env e = .ok c' →
    ∀ p ∈ c.conn.outstandings.packets, p.declaredLost = false → p.protectionType ≠ .zeroRtt →
      c.encodedSizes p.ownEvent = 0

theorem retryLeak_eq_zero_iff :
    c.retryLeak = 0 ↔ ∀ p ∈ c.conn.outstandings.packets, p.declaredLost = false →
      p.protectionType ≠ .zeroRtt → c.encodedSizes p.ownEvent = 0 := by
  rw [retryLeak, liveBytes_eq_zero_iff]
  simp only [List.mem_filter, isZeroRtt, Bool.not_eq_true', beq_eq_false_iff_ne]
  exact ⟨fun hall p hp hlost hzero => hall p ⟨hp, hzero⟩ hlost,
    fun hall p hp hlost => hall p hp.1 hlost hp.2⟩

theorem Inv.accounted_iff (hc : c.Inv leaked) :
    c.inflightBytes = c.outstandingBytes ↔ leaked = 0 := by
  have hbytes := hc.bytes
  omega

/-- In every run from a new connection: no subtraction underflows, and `inflightBytes` is the sum
of the sizes of the packets that are outstanding, in every state, if and only if whenever a Retry
is carried through, all packets outstanding are 0-RTT packets. -/
theorem inflight_accounting (env : AlarmEnv σ ε) (c₀ : InflightConn σ) (hc₀ : c₀.IsNew)
    (events : List (InflightEvent σ ε)) :
    (∀ run, run <+: events →
      run.foldlM (InflightConn.step env) c₀ ≠ .error .underflow ∧
        ∀ c, run.foldlM (InflightConn.step env) c₀ = .ok c →
          c.inflightBytes = c.outstandingBytes) ↔
      Meets (InflightConn.step env) (RetryFindsZeroRtt env) c₀ events := by
  have hnever : ∀ run : List (InflightEvent σ ε),
      run.foldlM (InflightConn.step env) c₀ ≠ .error .underflow :=
    fun run hrun => (inv_run hc₀ run).of_error hrun rfl
  have hmeets := @never_bad_iff_meets (InflightConn σ) (InflightEvent σ ε) (InflightFailure ε)
    (InflightConn.step env) (RetryFindsZeroRtt env) (fun c => ∃ leaked, c.Inv leaked)
    (fun c => c.inflightBytes = c.outstandingBytes) ?_ ?_ ?_ c₀ events ⟨0, hc₀.inv⟩
    (hc₀.inv.accounted_iff.mpr rfl)
  · rw [← hmeets]
    exact ⟨fun hall run c hrun hc => (hall run hrun).2 c hc,
      fun hall run hrun => ⟨hnever run, fun c hc => hall run c hrun hc⟩⟩
  · rintro c e c' ⟨leaked, hc⟩ hstep
    exact ⟨_, (hc.step env e).of_ok hstep⟩
  · rintro c e c' ⟨leaked, hc⟩ hgood hfinds hstep
    refine ((hc.step env e).of_ok hstep).accounted_iff.mpr ?_
    rw [hc.accounted_iff.mp hgood, Nat.zero_add]
    cases e with
    | retry undo => exact retryLeak_eq_zero_iff.mpr (hfinds undo rfl c' hstep)
    | _ => rfl
  · rintro c e ⟨leaked, hc⟩ hgood hfinds
    unfold RetryFindsZeroRtt at hfinds
    simp only [not_forall] at hfinds
    obtain ⟨undo, rfl, c', hstep, p, hp, hlost, hzero, hsize⟩ := hfinds
    refine ⟨c', hstep, fun haccounted => hsize ?_⟩
    have hleaked := ((hc.step env _).of_ok hstep).accounted_iff.mp haccounted
    have hnone : c.retryLeak = 0 := Nat.eq_zero_of_add_eq_zero_left hleaked
    exact retryLeak_eq_zero_iff.mp hnone p hp hlost hzero

end InflightConn

/-! ### Two Retries -/

def idleInflight : InflightConn Unit where
  conn := idleConn
  encodedSizes _ := 0
  inflightBytes := 0
  congestionController := .cubic
  hasFactory := true

/-- The server answers early data with a Retry. -/
def earlyDataRetry : List (InflightEvent Unit Empty) := [
  .send ⟨.zeroRtt, [.maxData 10]⟩ 0 300,
  .retry id ]

theorem inflight_accounting_earlyData :
    ∃ c, earlyDataRetry.foldlM (InflightConn.step idleAlarm) idleInflight = .ok c ∧
      c.inflightBytes = c.outstandingBytes := by
  have hmeets : Meets (InflightConn.step idleAlarm) (InflightConn.RetryFindsZeroRtt idleAlarm)
      idleInflight earlyDataRetry := by
    refine ⟨(fun undo hretry => by cases hretry), fun c hc => ⟨?_, fun _ _ => trivial⟩⟩
    cases hc
    intro undo _ c' _ p hp _ hzero
    cases List.mem_singleton.mp hp
    exact absurd rfl hzero
  have hrun : ∃ c, earlyDataRetry.foldlM (InflightConn.step idleAlarm) idleInflight = .ok c :=
    ⟨_, rfl⟩
  obtain ⟨c, hc⟩ := hrun
  exact ⟨c, hc, ((InflightConn.inflight_accounting idleAlarm idleInflight ⟨rfl, rfl⟩
    earlyDataRetry).mpr hmeets earlyDataRetry List.prefix_rfl).2 c hc⟩

/-- The server answers the first Initial packet with a Retry. -/
def initialRetry : List (InflightEvent Unit Empty) := [
  .send ⟨.initial, [.writeCrypto 0 500]⟩ 0 1200,
  .retry id ]

/-- The Initial packet is dropped, and its bytes stay in flight. -/
theorem inflight_leaks_initial :
    ∃ c, initialRetry.foldlM (InflightConn.step idleAlarm) idleInflight = .ok c ∧
      c.conn.outstandings.packets = [] ∧ c.outstandingBytes = 0 ∧ c.inflightBytes = 1200 :=
  ⟨_, rfl, rfl, rfl, rfl⟩

end MasqueQuic
