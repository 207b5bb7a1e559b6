/-
Implicit acks of crypto data.

When the keys of a level are given up, `implicitAckCryptoStream` acknowledges all packets of
the level by an ack frame of its own making, and asserts that no crypto data is left behind.
The handlers of the loss alarm (`AlarmEnv`) are those of the crypto streams here; the other
frames and the rest of the connection are arbitrary.
-/

import MasqueQuic.Quic.AlarmConsistency
import MasqueQuic.Quic.CryptoStreams

namespace MasqueQuic

variable {ρ ε σ α : Type}

def cryptoEnv (o : OtherCrypto ρ ε) (maxNumPTOs : Nat) (earlyRetransmit0Rtt : Bool) :
    AlarmEnv (CryptoState ρ) (CryptoFailure ε) where
  handlers := cryptoHandlers o
  implicitHandlers := implicitCryptoHandlers o
  cryptoDone := CryptoState.cryptoDone
  maxNumPTOs
  earlyRetransmit0Rtt

/-! ### Runs -/

/-- Stream frames are sent in 0-RTT and 1-RTT packets only. -/
def RegularQuicWritePacket.streamFramesAllowed (packet : RegularQuicWritePacket) : Bool :=
  packet.packetNumberSpace == .appData ||
    (packet.frames.filterMap QuicWriteFrame.asWriteStreamFrame).isEmpty

inductive CryptoEvent (ρ ε : Type) where
  | op (op : AlarmOp (CryptoState ρ) (CryptoFailure ε))
  /-- The handshake layer writes crypto data. -/
  | writeCrypto (space : PacketNumberSpace) (data : Buf)
  | other (f : ρ → Except ε ρ)
  /-- One of the two spaces that `handshakeConfirmed` gives up. -/
  | discardSpace (space : PacketNumberSpace) (times : AckTimes)
  | endTurn (hasDataToWrite : Bool)
  | lossTimeoutExpired (now : Nat)
  | happyEyeballs
  /-- Ciphers come and go. -/
  | setKeys (keys : ConnKeys)

/-- The packets are what the schedulers and `PacketRebuilder` make. -/
def AlarmConn.mayRun (c : AlarmConn (CryptoState ρ)) :
    AlarmOp (CryptoState ρ) (CryptoFailure ε) → Bool
  | .send packet _ => c.conn.rest.schedules packet && packet.streamFramesAllowed
  | .sendDsr frames _ => (cryptoSpans frames).isEmpty
  | .clone index packet _ =>
      c.conn.outstandings.packets[index]?.all (c.conn.rest.rebuilds · packet) &&
        packet.streamFramesAllowed
  | .other _ => false
  | _ => true

def AlarmConn.runCrypto (env : AlarmEnv (CryptoState ρ) (CryptoFailure ε))
    (c : AlarmConn (CryptoState ρ)) :
    CryptoEvent ρ ε → Except (AlarmFailure (CryptoFailure ε)) (AlarmConn (CryptoState ρ))
  | .op op => if c.mayRun op then c.runOp env op else .ok c
  | .writeCrypto space data =>
      .ok { c with conn.rest := c.conn.rest.writeDataToQuicStream space data }
  | .other f => do
      let rest ← liftSend (liftHandler (c.conn.rest.onOther f))
      return { c with conn.rest := rest }
  | .discardSpace space times =>
      if space = .appData then .ok c else AlarmConn.discardSpace env space times c
  | .endTurn hasDataToWrite => c.setLossDetectionAlarm hasDataToWrite
  | .lossTimeoutExpired now => c.step env (.lossTimeoutExpired now)
  | .happyEyeballs => c.step env .happyEyeballs
  | .setKeys keys => .ok { c with keys }

/-! ### The invariant -/

/-- The packet is one that may be sent: what is a 0-RTT packet has no crypto frames. -/
def RegularQuicWritePacket.Proper (packet : RegularQuicWritePacket) : Prop :=
  (packet.protectionType = .zeroRtt → cryptoSpans packet.frames = []) ∧
    packet.streamFramesAllowed = true

structure CryptoInv (o : OtherCrypto ρ ε) (c : SendConn (CryptoState ρ)) : Prop where
  inv : (cryptoFrames o).Inv c
  proper : ∀ p ∈ c.outstandings.packets, p.sent.Proper

/-- The packets of the queue were there before, up to the marks of loss detection. -/
def SendConn.Keeps (c c' : SendConn σ) : Prop :=
  ∀ p ∈ c'.outstandings.packets, ∃ q ∈ c.outstandings.packets, q.sent = p.sent

namespace CryptoInv

variable {o : OtherCrypto ρ ε} {c c' : SendConn (CryptoState ρ)} {pnSpace : PacketNumberSpace}
  {packet : RegularQuicWritePacket} {p : OutstandingPacket}

theorem keeps (hc : CryptoInv o c) (hinv : (cryptoFrames o).Inv c') (hkeeps : c.Keeps c') :
    CryptoInv o c' := by
  refine ⟨hinv, fun p hp => ?_⟩
  obtain ⟨q, hq, hsent⟩ := hkeeps p hp
  exact hsent ▸ hc.proper q hq

theorem keeps_of_unmarked
    (hmap : c'.outstandings.packets.map (·.unmarked) = c.outstandings.packets.map (·.unmarked)) :
    c.Keeps c' := by
  intro p hp
  obtain ⟨q, hq, hmark⟩ := exists_unmarked hmap hp
  exact ⟨q, hq, congrArg (·.sent) hmark⟩

theorem keeps_of_subset
    (hsub : ∀ p ∈ c'.outstandings.packets, p ∈ c.outstandings.packets) : c.Keeps c' :=
  fun p hp => ⟨p, hsub p hp, rfl⟩

/-- Every failure is allowed. -/
theorem ends_of_allowed {x : Except (SendFailure ε) α} {Q : α → Prop}
    (hx : Ends (Allowed (fun _ => True) fun _ => True) x Q) : Ends (fun _ => True) x Q :=
  hx.forget

theorem detectLossPackets (hc : CryptoInv o c) (largestAcked : Option Nat) (lossTime : Nat)
    (ackedPackets : List AckPacket) :
    Ends (fun _ => True)
      (MasqueQuic.detectLossPackets (cryptoHandlers o) largestAcked lossTime pnSpace ackedPackets c)
      (CryptoInv o) := by
  refine (ends_of_allowed (hc.inv.detectLossPackets largestAcked lossTime ackedPackets
    (.inl trivial))).imp fun c' hc' => ?_
  exact hc.keeps hc'.1 (keeps_of_unmarked hc'.2.2.2.2.2)

theorem ackOutstandings (hc : CryptoInv o c) (frame : ReadAckFrame) (times : AckTimes) :
    Ends (fun _ => True) (MasqueQuic.ackOutstandings (cryptoHandlers o) pnSpace frame times c)
      (fun r => CryptoInv o r.1) := by
  have hspurious : (cryptoFrames o).SpuriousMet pnSpace frame c :=
    fun _ => .of_forall (fun _ _ => trivial) _ _
  refine (ends_of_allowed (hc.inv.ackOutstandings hspurious)).imp fun r hr => ?_
  refine hc.keeps hr.1 (keeps_of_subset fun p hp => ?_)
  rw [hr.2.2.2.1] at hp
  exact List.mem_of_mem_filter hp

theorem clearOldOutstandingPackets (hc : CryptoInv o c) (time : Nat) :
    Ends (fun _ => True)
      (MasqueQuic.clearOldOutstandingPackets time pnSpace c :
        Except (SendFailure (CryptoFailure ε)) (SendConn (CryptoState ρ)))
      (CryptoInv o) := by
  refine (ends_of_allowed (hc.inv.clearOldOutstandingPackets time)).imp fun c' hc' => ?_
  obtain ⟨hinv, -, -, -, front, back, hsplit, -, hpackets⟩ := hc'
  refine hc.keeps hinv (keeps_of_subset ?_)
  rw [hpackets, hsplit]
  exact (List.filter_sublist.append (List.Sublist.refl back)).subset

theorem markZeroRttPacketsLost (hc : CryptoInv o c) :
    Ends (fun _ => True) (MasqueQuic.markZeroRttPacketsLost (cryptoHandlers o) c)
      (CryptoInv o) := by
  have hqueue : Ends (fun _ => True) (MasqueQuic.markZeroRttPacketsLost (cryptoHandlers o) c)
      (fun c' => c.Keeps c') := by
    refine (zeroRttLoop_packets _ _).bind fun r hr => .ok (keeps_of_subset fun p hp => ?_)
    change p ∈ r.1 at hp
    rw [hr] at hp
    exact List.mem_of_mem_filter hp
  exact ((ends_of_allowed hc.inv.markZeroRttPacketsLost).also hqueue).imp
    fun c' hc' => hc.keeps hc'.1.1 hc'.2

/-- The new packets are the one that is sent. -/
theorem updateConnection_packets (h : Handlers σ ε) (c : SendConn σ)
    (packetEvent : Option PacketEvent) (sentTime : Nat) (isDSRPacket : Bool) :
    Ends (fun _ => True) (updateConnection h c packetEvent packet sentTime isDSRPacket)
      (fun c' => ∀ p ∈ c'.outstandings.packets, p.sent = packet ∨ p ∈ c.outstandings.packets) := by
  unfold updateConnection
  refine Ends.any.bind fun a _ => Ends.any.bind fun t _ => ?_
  refine Ends.ite (fun _ => .ok fun p hp => .inr hp) fun _ => ?_
  refine Ends.any.bind fun _ _ => .ok fun p hp => ?_
  rcases List.mem_cons.mp ((insertPosition_perm _ _).mem_iff.mp hp) with rfl | hp
  · exact .inl rfl
  · exact .inr hp

theorem cryptoSpans_of_untracked (h : ¬ packet.tracked = true) :
    cryptoSpans packet.frames = [] := by
  rw [List.eq_nil_iff_forall_not_mem]
  intro f hf
  obtain ⟨frame, hframe, hcrypto⟩ := List.mem_filterMap.mp hf
  cases frame with
  | writeCrypto offset len => exact h (List.any_eq_true.mpr ⟨_, hframe, rfl⟩)
  | _ => cases hcrypto

theorem owes_of_nil (h : cryptoSpans packet.frames = []) (space : PacketNumberSpace) :
    packet.owes space = [] := by
  rw [RegularQuicWritePacket.owes, h, ite_self]

theorem mem_owes {f : StreamSpan} (hf : f ∈ cryptoSpans packet.frames) :
    f ∈ packet.owes (getCryptoStream packet.protectionType) := by
  rw [RegularQuicWritePacket.owes, if_pos rfl]
  exact hf

theorem send {sentTime : Nat} {isDSRPacket : Bool} (hc : CryptoInv o c)
    (hkey : isDSRPacket = true → packet.protectionType ≠ .zeroRtt)
    (hschedules : c.rest.schedules packet = true) (hallowed : packet.streamFramesAllowed = true) :
    Ends (fun _ => True)
      (updateConnection (cryptoHandlers o) c none packet sentTime isDSRPacket) (CryptoInv o) := by
  have hsend : Ends (Allowed (fun _ => True) fun _ => True)
      (updateConnection (cryptoHandlers o) c none packet sentTime isDSRPacket) _ :=
    hc.inv.send (.inl trivial) hkey fun a cs _ hs => by
      refine (CryptoState.Owes.packetSent
        (p := packet.outstanding a.nextPacketNum sentTime isDSRPacket none) hs
        hschedules).imp fun t ht => ⟨trivial, ?_⟩
      by_cases htracked : packet.tracked = true
      · rw [if_pos htracked]
        exact ht
      · rw [if_neg htracked]
        refine ht.perm fun space => ?_
        have hnone : packet.owes space = [] := owes_of_nil (cryptoSpans_of_untracked htracked) space
        change (packet.owes space ++ cryptoOwed cs space).Perm _
        rw [hnone]
        exact List.Perm.refl _
  refine ((ends_of_allowed hsend).also (updateConnection_packets _ c none sentTime
    isDSRPacket)).imp fun c' hc' => ⟨hc'.1.1, fun p hp => ?_⟩
  rcases hc'.2 p hp with hnew | hp
  · rw [hnew]
    refine ⟨fun hzero => ?_, hallowed⟩
    unfold CryptoState.schedules at hschedules
    rw [if_pos hzero] at hschedules
    exact List.isEmpty_iff.mp hschedules
  · exact hc.proper p hp

/-! ### Clones -/

variable {r : PacketEvent × OutstandingsInfo}

/-- The crypto frames of a packet that is cloned are on their way. -/
theorem owed_of_cloned (hcl : (cryptoFrames o).Cloned c p r) {space : PacketNumberSpace}
    {f : StreamSpan} (hf : f ∈ p.sent.owes space) :
    f ∈ cryptoOwed ((r.2.packets.filter r.2.carries).map (·.sent)) space := by
  obtain ⟨q, hq, hlost, hassoc, hown⟩ := hcl.inv.scanned.upholds.tally.carried r.1 hcl.live
  have hcopy : q.sent.owes space = p.sent.owes space := hcl.copy q hq hlost hassoc hown space
  have hcarries : r.2.carries q = true := by
    have hlive := hcl.live
    simp [OutstandingsCounters.carries, hlost, hassoc, hown, hlive]
  exact List.mem_flatMap.mpr
    ⟨q.sent, List.mem_map_of_mem (List.mem_filter.mpr ⟨hq, hcarries⟩), hcopy ▸ hf⟩

theorem getCryptoStream_of_space {key key' : ProtectionType}
    (h : protectionTypeToPacketNumberSpace key = protectionTypeToPacketNumberSpace key') :
    getCryptoStream key = getCryptoStream key' ∨ key = .zeroRtt ∨ key' = .zeroRtt := by
  cases key <;> cases key' <;> simp [protectionTypeToPacketNumberSpace, getCryptoStream] at h ⊢

/-- `PacketRebuilder` finds all crypto frames of the packet. -/
theorem owes_of_rebuilds (hcl : (cryptoFrames o).Cloned c p r) (hp : p.sent.Proper)
    (hspace : packet.packetNumberSpace = p.packetNumberSpace)
    (hrebuilds : c.rest.rebuilds p packet = true) (space : PacketNumberSpace) :
    p.sent.owes space = packet.owes space := by
  obtain ⟨hframes, hzero⟩ := Bool.and_eq_true_iff.mp hrebuilds
  have hbalanced := (hcl.inv.scanned.upholds.holds (getCryptoStream p.protectionType)).balanced
  have hfound : (cryptoSpans p.frames).filter (fun f =>
      ((c.rest.cryptoStreams (getCryptoStream p.protectionType)).findSent f.offset).isSome) =
        cryptoSpans p.frames := by
    refine List.filter_eq_self.mpr fun f hf => ?_
    have howes : f ∈ p.sent.owes (getCryptoStream p.protectionType) := mem_owes hf
    obtain ⟨b, hfind, -⟩ := hbalanced.findSent_of_mem (owed_of_cloned hcl howes)
    rw [hfind]
    rfl
  have hspans : cryptoSpans packet.frames = cryptoSpans p.frames :=
    (of_decide_eq_true hframes).trans hfound
  rcases getCryptoStream_of_space hspace with hstream | hkey | hkey
  · unfold RegularQuicWritePacket.owes
    rw [hspans, hstream]
    rfl
  · have hnil : cryptoSpans packet.frames = [] := by
      rw [hkey] at hzero
      exact List.isEmpty_iff.mp hzero
    rw [owes_of_nil hnil, @owes_of_nil p.sent (hspans.symm.trans hnil)]
  · have hnil : cryptoSpans p.frames = [] := hp.1 hkey
    rw [@owes_of_nil p.sent hnil, owes_of_nil (hspans.trans hnil)]

theorem clonePacket_packets (h : Handlers σ ε) (c : SendConn σ) (index : Nat)
    (sentTime : Option Nat) :
    Ends (fun _ => True) (clonePacket h c index packet sentTime) (fun c' =>
      ∀ p ∈ c'.outstandings.packets,
        (p.sent = packet ∧ c.outstandings.packets[index]?.isSome = true) ∨
          ∃ q ∈ c.outstandings.packets, q.sent = p.sent) := by
  unfold clonePacket
  cases hi : c.outstandings.packets[index]? with
  | none => exact .ok fun p hp => .inr ⟨p, hp, rfl⟩
  | some p =>
    refine Ends.ite (fun _ => ?_) fun _ => .ok fun p hp => .inr ⟨p, hp, rfl⟩
    have hmap : (cloneOutstandingPacket c.outstandings index p).2.packets.map (·.sent) =
        c.outstandings.packets.map (·.sent) := by
      unfold cloneOutstandingPacket
      cases p.associatedEvent with
      | some event => rfl
      | none => exact map_set_eq (p := p) rfl hi
    have hold : ∀ x ∈ (cloneOutstandingPacket c.outstandings index p).2.packets,
        ∃ q ∈ c.outstandings.packets, q.sent = x.sent := by
      intro x hx
      have hmem : x.sent ∈ c.outstandings.packets.map (·.sent) := by
        rw [← hmap]
        exact List.mem_map_of_mem hx
      exact List.mem_map.mp hmem
    cases sentTime with
    | none => exact .ok fun x hx => .inr (hold x hx)
    | some sentTime =>
      exact (updateConnection_packets h _ _ sentTime false).imp fun c' hc' x hx =>
        (hc' x hx).imp (⟨·, rfl⟩) (hold x)

theorem clone {index : Nat} {sentTime : Option Nat} (hc : CryptoInv o c)
    (hrebuilds : ∀ p, c.outstandings.packets[index]? = some p → c.rest.rebuilds p packet = true)
    (hallowed : packet.streamFramesAllowed = true) :
    Ends (fun _ => True) (clonePacket (cryptoHandlers o) c index packet sentTime)
      (CryptoInv o) := by
  have howes : ∀ p r, c.outstandings.packets[index]? = some p → (cryptoFrames o).Cloned c p r →
      packet.packetNumberSpace = p.packetNumberSpace →
      ∀ space, p.sent.owes space = packet.owes space := by
    intro p r hp hcl hspace
    exact owes_of_rebuilds hcl (hc.proper p (List.mem_of_getElem? hp)) hspace (hrebuilds p hp)
  have hclone : Ends (Allowed (fun _ => True) fun _ => True)
      (clonePacket (cryptoHandlers o) c index packet sentTime) _ :=
    hc.inv.clonePacket (.inl trivial) (fun p r hp hcl hspace _ => howes p r hp hcl hspace)
      fun p r packetNum sentTime hp hcl hspace => by
        have hs : c.rest.Owes _ := hcl.inv.scanned.upholds.holds
        refine (hs.cloneSent fun f hf => owed_of_cloned hcl ?_).imp fun t ht => ⟨trivial, ht⟩
        rw [howes p r hp hcl hspace]
        exact mem_owes hf
  refine ((ends_of_allowed hclone).also (clonePacket_packets _ c index sentTime)).imp
    fun c' hc' => ⟨hc'.1.1, fun x hx => ?_⟩
  rcases hc'.2 x hx with ⟨hnew, hsome⟩ | ⟨q, hq, hsent⟩
  · rw [hnew]
    refine ⟨fun hzero => ?_, hallowed⟩
    obtain ⟨p, hp⟩ := Option.isSome_iff_exists.mp hsome
    have hguard := (Bool.and_eq_true_iff.mp (hrebuilds p hp)).2
    rw [hzero] at hguard
    exact List.isEmpty_iff.mp hguard
  · exact hsent ▸ hc.proper q hq

/-! ### The implicit ack -/

/-- Without packets in a space nothing of its crypto stream is on its way. -/
theorem retransmissionBuffer_nil (hc : CryptoInv o c)
    (hnone : ∀ p ∈ c.outstandings.packets, p.packetNumberSpace ≠ pnSpace) :
    (c.rest.cryptoStreams pnSpace).retransmissionBuffer = [] := by
  have hsent := (hc.inv.scanned.upholds.holds pnSpace).balanced.sent
  have howed : cryptoOwed ([] ++ (c.outstandings.packets.filter c.outstandings.carries).map
      (·.sent)) pnSpace = [] := by
    refine List.flatMap_eq_nil_iff.mpr fun packet hpacket => ?_
    obtain ⟨p, hp, rfl⟩ := List.mem_map.mp hpacket
    have hmem := List.mem_of_mem_filter hp
    by_cases hzero : p.protectionType = .zeroRtt
    · exact owes_of_nil ((hc.proper p hmem).1 hzero) pnSpace
    · refine owes_of_ne fun hstream => hnone p hmem ?_
      change pnSpace = getCryptoStream p.protectionType at hstream
      change protectionTypeToPacketNumberSpace p.protectionType = pnSpace
      rw [hstream]
      cases hkey : p.protectionType with
      | zeroRtt => exact absurd hkey hzero
      | _ => rfl
  rw [howed] at hsent
  exact List.map_eq_nil_iff.mp hsent.eq_nil

/-- The contract does not depend on the visitor. -/
theorem implicit (hc : CryptoInv o c) : (implicitCryptoFrames o).Inv c :=
  ⟨⟨⟨hc.inv.scanned.upholds.tally, hc.inv.scanned.upholds.nodup, hc.inv.scanned.upholds.copies,
    hc.inv.scanned.upholds.holds⟩, hc.inv.scanned.dsr⟩, hc.inv.numbered, hc.inv.sorted,
    hc.inv.keyed⟩

theorem of_implicit (hc : CryptoInv o c) (hinv : (implicitCryptoFrames o).Inv c')
    (hkeeps : c.Keeps c') : CryptoInv o c' :=
  hc.keeps ⟨⟨⟨hinv.scanned.upholds.tally, hinv.scanned.upholds.nodup,
    hinv.scanned.upholds.copies, hinv.scanned.upholds.holds⟩, hinv.scanned.dsr⟩, hinv.numbered,
    hinv.sorted, hinv.keyed⟩ hkeeps

theorem visitFrames_quiet (p : OutstandingPacket) (flag : Bool) (frames : List QuicWriteFrame)
    (details : DetailsPerStream) (s : CryptoState ρ) :
    visitFrames (implicitCryptoHandlers o) p flag frames details s =
      visitFrames (quietCryptoHandlers o) p flag frames details s := by
  induction frames generalizing details s with
  | nil => rfl
  | cons frame frames ih =>
    rw [visitFrames, visitFrames, ih]
    simp only [ih]
    rfl

theorem visitPackets_quiet (contexts : List (OutstandingPacket × Bool)) (acked : List AckPacket)
    (s : CryptoState ρ) :
    visitPackets (implicitCryptoHandlers o) contexts acked s =
      visitPackets (quietCryptoHandlers o) contexts acked s := by
  induction contexts generalizing acked s with
  | nil => rfl
  | cons x contexts ih =>
    rw [visitPackets, visitPackets, visitFrames_quiet]
    simp only [ih]

/-- The loss visitor is not used before loss detection. -/
theorem ackOutstandings_quiet (frame : ReadAckFrame) (times : AckTimes) :
    MasqueQuic.ackOutstandings (implicitCryptoHandlers o) pnSpace frame times c =
      MasqueQuic.ackOutstandings (quietCryptoHandlers o) pnSpace frame times c := by
  unfold MasqueQuic.ackOutstandings
  simp only [visitPackets_quiet]
  rfl

/-- The packets of the space have no stream frames. -/
theorem spuriousMet (hc : CryptoInv o c) (hspace : pnSpace ≠ .appData) (frame : ReadAckFrame) :
    (implicitCryptoFrames o).SpuriousMet pnSpace frame c := by
  intro _
  have hnone : spuriousFrames
      (c.outstandings.packets.filter (acks pnSpace frame.ackBlocks)).reverse = [] := by
    refine List.flatMap_eq_nil_iff.mpr fun p hp => ?_
    have hmem := List.mem_filter.mp (List.mem_reverse.mp (List.mem_of_mem_filter hp))
    have hown : p.packetNumberSpace = pnSpace := (acks_iff.mp hmem.2).1
    have hallowed := (hc.proper p hmem.1).2
    change (p.packetNumberSpace == .appData || p.streamFrames.isEmpty) = true at hallowed
    rw [hown, beq_eq_false_iff_ne.mpr hspace, Bool.false_or] at hallowed
    exact List.isEmpty_iff.mp hallowed
  rw [hnone]
  trivial

/-- Loss detection finds nothing in a space without packets. -/
theorem detectLossPackets_of_none (h : Handlers σ ε) {c : SendConn σ} (largestAcked : Option Nat)
    (lossTime : Nat) (ackedPackets : List AckPacket)
    (hnone : ∀ p ∈ c.outstandings.packets, p.packetNumberSpace ≠ pnSpace) :
    MasqueQuic.detectLossPackets h largestAcked lossTime pnSpace ackedPackets c = .ok c := by
  cases largestAcked with
  | none => rfl
  | some largestAcked =>
    have hall : ∀ p ∈ c.outstandings.packets, (!isOutstanding pnSpace p) = true := by
      intro p hp
      simp [isOutstanding, hnone p hp]
    rw [detectLossPackets_some, processOutstandingsForLoss]
    change lossLoop h _ (c.outstandings.packets.dropWhile fun p => !isOutstanding pnSpace p) _ _
      >>= _ = _
    rw [List.dropWhile_eq_nil_iff.mpr hall]
    change (Except.ok { c with outstandings :=
      ⟨c.outstandings.toOutstandingsCounters,
        c.outstandings.packets.takeWhile (fun p => !isOutstanding pnSpace p) ++ []⟩ } :
        Except (SendFailure ε) (SendConn σ)) = _
    rw [List.takeWhile_eq_self_iff.mpr hall, List.append_nil]

/-- The rest changes and the crypto streams stay balanced. -/
theorem withRest {rest : CryptoState ρ} (hc : CryptoInv o c)
    (hrest : ∀ owed, c.rest.Owes owed → rest.Owes owed) : CryptoInv o { c with rest } :=
  ⟨hc.inv.withRest (fun _ _ hab => hab) fun _ hs => hrest _ hs, hc.proper⟩

theorem withAckStates {ackStates : AckStates} (hc : CryptoInv o c)
    (hnumbered : Numbered c.outstandings.packets ackStates) :
    CryptoInv o { c with ackStates } :=
  ⟨⟨hc.inv.scanned, hnumbered, hc.inv.sorted, hc.inv.keyed⟩, hc.proper⟩

theorem newlyAcked {a : AckState} (hc : CryptoInv o c) (ha : c.ackStates.get pnSpace = some a)
    (newly : Option Nat) :
    CryptoInv o { c with ackStates := c.ackStates.set pnSpace (a.newlyAcked newly) } := by
  refine hc.withAckStates (hc.inv.numbered.set ha ?_)
  cases newly <;> exact le_rfl

end CryptoInv

namespace AlarmConn

variable {o : OtherCrypto ρ ε} {c c' : AlarmConn (CryptoState ρ)} {pnSpace : PacketNumberSpace}
  {times : AckTimes} {maxNumPTOs : Nat} {earlyRetransmit0Rtt : Bool}
  {F : AlarmFailure (CryptoFailure ε) → Prop}

theorem ends_liftSend_of_false {A : SendCheck → Prop} {E : ε → Prop} {x : Except (SendFailure ε) α}
    {Q : α → Prop} {F : AlarmFailure ε → Prop} (hA : ∀ which, ¬ A which) (hE : ∀ e, ¬ E e)
    (hx : Ends (Allowed A E) x Q) : Ends F (liftSend x) Q := by
  cases x with
  | ok a => exact hx
  | error f =>
    cases f with
    | check which => exact absurd hx (hA which)
    | thrown e => exact absurd hx (hE e)

theorem detectLossPackets_of_none (h : Handlers σ ε) {c : AlarmConn σ} (largestAcked : Option Nat)
    (lossTime : Nat) (ackedPackets : List AckPacket)
    (hnone : ∀ p ∈ c.conn.outstandings.packets, p.packetNumberSpace ≠ pnSpace) :
    ∃ c', detectLossPackets h largestAcked lossTime pnSpace ackedPackets c = .ok c' ∧
      c'.conn = c.conn := by
  unfold AlarmConn.detectLossPackets
  rw [CryptoInv.detectLossPackets_of_none h _ _ _ hnone]
  exact ⟨_, rfl, rfl⟩

theorem alarmIfOutstanding_ends (hc : CryptoInv o c.conn) :
    Ends F (c.alarmIfOutstanding : Except (AlarmFailure (CryptoFailure ε)) _)
      (fun c' => c'.conn = c.conn) := by
  have hcount : Ends F (liftSend (c.conn.outstandings.numOutstanding :
      Except (SendFailure (CryptoFailure ε)) Nat)) _ :=
    ends_liftSend_of_false (A := fun _ => False) (fun _ => id) (fun _ => id)
      hc.implicit.scanned.numOutstanding
  exact hcount.bind fun n _ => .ok rfl

theorem handleAckForLoss_of_none (hc : CryptoInv o c.conn) (newly : Option Nat)
    (acked : List AckPacket) (ackTime : Nat)
    (hstate : (c.conn.ackStates.get pnSpace).isSome = true)
    (hnone : ∀ p ∈ c.conn.outstandings.packets, p.packetNumberSpace ≠ pnSpace) :
    Ends F (handleAckForLoss (implicitCryptoHandlers o) newly acked ackTime pnSpace c)
      (fun c' => CryptoInv o c'.conn ∧ c'.conn.rest = c.conn.rest ∧
        c'.conn.outstandings = c.conn.outstandings) := by
  have hget : Ends F (liftSend (getAckState c.conn pnSpace :
      Except (SendFailure (CryptoFailure ε)) AckState)) _ :=
    ends_liftSend_of_false (A := fun _ => False) (E := fun _ => False) (fun _ => id) (fun _ => id)
      (getAckState_ends (.inr hstate))
  unfold AlarmConn.handleAckForLoss
  refine hget.bind fun a ha => ?_
  have hc₁ := hc.newlyAcked ha newly
  obtain ⟨c₂, hc₂, hconn⟩ := detectLossPackets_of_none (implicitCryptoHandlers o)
    (c := { c with
      conn := { c.conn with ackStates := c.conn.ackStates.set pnSpace (a.newlyAcked newly) }
      ptoCount := if newly.isSome then 0 else c.ptoCount })
    (a.newlyAcked newly).largestAckedByPeer ackTime acked hnone
  have hinv : CryptoInv o c₂.conn := hconn ▸ hc₁
  dsimp only at hc₂ ⊢
  rw [hc₂]
  refine (alarmIfOutstanding_ends hinv).imp fun c' hc' => ?_
  rw [hc', hconn]
  exact ⟨hc₁, rfl, rfl⟩

/-- The implicit ack of a whole space. No check fails, and no packet of the space is left for
loss detection. -/
theorem implicitAckFrame_ends (hc : CryptoInv o c.conn) (hspace : pnSpace ≠ .appData)
    (hstate : (c.conn.ackStates.get pnSpace).isSome = true) (frame : ReadAckFrame)
    (hall : ∀ p ∈ c.conn.outstandings.packets, p.packetNumberSpace = pnSpace →
      acks pnSpace frame.ackBlocks p = true) :
    Ends F (processAckFrame (implicitCryptoHandlers o) pnSpace frame times c)
      (fun c' => CryptoInv o c'.conn ∧ c.conn.rest.SameWrites c'.conn.rest ∧
        ∀ p ∈ c'.conn.outstandings.packets, p.packetNumberSpace ≠ pnSpace) := by
  unfold AlarmConn.processAckFrame
  rw [CryptoInv.ackOutstandings_quiet]
  refine (ends_liftSend_of_false (A := fun _ => False) (fun _ => id) (fun _ => id)
    (hc.implicit.ackOutstandings (hc.spuriousMet hspace frame))).bind fun r hr => ?_
  obtain ⟨conn, newly, acked⟩ := r
  obtain ⟨hinv, hwrites, hstates, hpackets, -⟩ := hr
  dsimp only at hinv hwrites hstates hpackets ⊢
  have hnone : ∀ p ∈ conn.outstandings.packets, p.packetNumberSpace ≠ pnSpace := by
    intro p hp hown
    rw [hpackets] at hp
    obtain ⟨hp, hnot⟩ := List.mem_filter.mp hp
    rw [hall p hp hown] at hnot
    cases hnot
  have hc₁ : CryptoInv o conn := by
    refine hc.of_implicit hinv (CryptoInv.keeps_of_subset fun p hp => ?_)
    rw [hpackets] at hp
    exact List.mem_of_mem_filter hp
  refine (handleAckForLoss_of_none (c := { c with conn }) hc₁ newly acked times.ackReceiveTime
    (hstates ▸ hstate) hnone).bind fun c₂ hc₂ => ?_
  obtain ⟨hinv₂, hrest₂, hqueue₂⟩ := hc₂
  refine (ends_liftSend_of_false (A := fun _ => False) (fun _ => id) (fun _ => id)
    (hinv₂.implicit.clearOldOutstandingPackets times.ackReceiveTime)).bind fun conn₃ hc₃ => .ok ?_
  obtain ⟨hinv₃, hrest₃, -, -, front, back, hsplit, -, hpackets₃⟩ := hc₃
  have hsub : ∀ p ∈ conn₃.outstandings.packets, p ∈ c₂.conn.outstandings.packets := by
    rw [hpackets₃, hsplit]
    exact (List.filter_sublist.append (List.Sublist.refl back)).subset
  refine ⟨hinv₂.of_implicit hinv₃ (CryptoInv.keeps_of_subset hsub), ?_, fun p hp => ?_⟩
  · rw [hrest₃, hrest₂]
    exact hwrites
  · have hmem := hsub p hp
    rw [hqueue₂] at hmem
    exact hnone p hmem

/-- The loss buffer is dropped. -/
theorem cryptoDone_ends {s : CryptoState ρ}
    (hnil : (s.cryptoStreams pnSpace).retransmissionBuffer = []) :
    Ends (fun _ => (s.cryptoStreams pnSpace).writeBuffer.empty = false)
      (CryptoState.cryptoDone pnSpace s : Except (CryptoFailure ε) (CryptoState ρ))
      (fun t => ∀ owed, s.Owes owed → t.Owes owed) := by
  unfold CryptoState.cryptoDone
  refine Ends.ite (fun _ => .ok fun owed hs => ?_) fun hnot => .error ?_
  · refine hs.setStream ⟨⟨(hs pnSpace).balanced.sent, ?_, .nil⟩, List.forall_mem_nil _⟩ fun _ _ => rfl
    exact (hs pnSpace).balanced.laid.sublist
      (List.Sublist.append (List.Sublist.refl _) (List.nil_sublist _))
  · by_contra hempty
    exact hnot ⟨List.isEmpty_iff.mpr hnil, eq_true_of_ne_false hempty⟩

theorem ends_liftSend_const {P : Prop} {x : Except (SendFailure ε) α} {Q : α → Prop}
    (hx : Ends (fun _ => P) x Q) : Ends (fun _ => P) (liftSend x) Q := by
  cases x with
  | error e => exact hx
  | ok a => exact hx

theorem ends_liftHandler_const {P : Prop} {x : Except ε α} {Q : α → Prop}
    (hx : Ends (fun _ => P) x Q) : Ends (fun _ => P) (liftHandler x) Q := by
  cases x with
  | error e => exact hx
  | ok a => exact hx

/-- The only assertion that may fail is about data that has not been sent. -/
theorem implicitAckCryptoStream_ends (hc : CryptoInv o c.conn) (hspace : pnSpace ≠ .appData)
    (hstate : (c.conn.ackStates.get pnSpace).isSome = true) :
    Ends (fun _ => (c.conn.rest.cryptoStreams pnSpace).writeBuffer.empty = false)
      (implicitAckCryptoStream (cryptoEnv o maxNumPTOs earlyRetransmit0Rtt) pnSpace times c)
      (fun c' => CryptoInv o c'.conn ∧
        (∀ p ∈ c'.conn.outstandings.packets, p.packetNumberSpace ≠ pnSpace) ∧
        (c'.conn.rest.cryptoStreams pnSpace).retransmissionBuffer = []) := by
  unfold AlarmConn.implicitAckCryptoStream
  refine (ends_liftSend_of_false (A := fun _ => False) (E := fun _ => False) (fun _ => id)
    (fun _ => id) (getAckState_ends (.inr hstate))).bind fun a _ => ?_
  cases hnums : (c.conn.outstandings.packets.filter (own pnSpace)).map (·.packetNum) with
  | nil =>
    have hnone : ∀ p ∈ c.conn.outstandings.packets, p.packetNumberSpace ≠ pnSpace := by
      intro p hp hown
      have hmem : p ∈ c.conn.outstandings.packets.filter (own pnSpace) :=
        List.mem_filter.mpr ⟨hp, by simpa [own] using hown⟩
      rw [List.map_eq_nil_iff.mp hnums] at hmem
      cases hmem
    exact .ok ⟨hc, hnone, hc.retransmissionBuffer_nil hnone⟩
  | cons first others =>
    refine (implicitAckFrame_ends hc hspace hstate (implicitAck first others) fun p hp hown =>
      acks_implicitAck hnums hp hown).bind fun c₁ hc₁ => ?_
    obtain ⟨hinv, hwrites, hnone⟩ := hc₁
    have hdone := cryptoDone_ends (ε := ε) (hinv.retransmissionBuffer_nil hnone)
    rw [hwrites pnSpace] at hdone
    refine (ends_liftSend_const (ends_liftHandler_const hdone)).bind fun rest hrest => .ok ?_
    have hinv' : CryptoInv o { c₁.conn with rest } := hinv.withRest hrest
    exact ⟨hinv', hnone, hinv'.retransmissionBuffer_nil hnone⟩

/-! ### The steps of a run -/

theorem implicitAckCryptoStream_inv (hc : CryptoInv o c.conn) (hspace : pnSpace ≠ .appData) :
    Ends (fun _ => True)
      (implicitAckCryptoStream (cryptoEnv o maxNumPTOs earlyRetransmit0Rtt) pnSpace times c)
      (fun c' => CryptoInv o c'.conn) := by
  cases hstate : c.conn.ackStates.get pnSpace with
  | some a =>
    have hsome : (c.conn.ackStates.get pnSpace).isSome = true := by rw [hstate]; rfl
    exact (implicitAckCryptoStream_ends hc hspace hsome).forget.imp fun c' hc' => hc'.1
  | none =>
    unfold AlarmConn.implicitAckCryptoStream getAckState
    rw [hstate]
    exact .error trivial

theorem discardSpace_inv (pnSpace : PacketNumberSpace) (hspace : pnSpace ≠ .appData)
    (hc : CryptoInv o c.conn) :
    Ends (fun _ => True)
      (discardSpace (cryptoEnv o maxNumPTOs earlyRetransmit0Rtt) pnSpace times c)
      (fun c' => CryptoInv o c'.conn) :=
  (implicitAckCryptoStream_inv hc hspace).bind fun _ hc' =>
    .ok (hc'.withAckStates (hc'.inv.numbered.reset pnSpace))

theorem handshakeConfirmed_inv (hc : CryptoInv o c.conn) :
    Ends (fun _ => True)
      (c.handshakeConfirmed (cryptoEnv o maxNumPTOs earlyRetransmit0Rtt) times)
      (fun c' => CryptoInv o c'.conn) := by
  unfold AlarmConn.handshakeConfirmed
  refine (discardSpace_inv (c := { c with keys.initialCiphers := false }) .initial nofun hc).bind
    fun c₁ hc₁ => ?_
  exact discardSpace_inv (c := { c₁ with keys.handshakeCiphers := false, keys.confirmed := true })
    .handshake nofun hc₁

theorem detectLossPackets_inv (hc : CryptoInv o c.conn) (largestAcked : Option Nat)
    (lossTime : Nat) (ackedPackets : List AckPacket) :
    Ends (fun _ => True)
      (detectLossPackets (cryptoHandlers o) largestAcked lossTime pnSpace ackedPackets c)
      (fun c' => CryptoInv o c'.conn) :=
  (ends_liftSend_const (hc.detectLossPackets largestAcked lossTime ackedPackets)).bind
    fun _ hconn => .ok hconn

theorem alarmIfOutstanding_inv (hc : CryptoInv o c.conn) :
    Ends (fun _ => True) (c.alarmIfOutstanding : Except (AlarmFailure (CryptoFailure ε)) _)
      (fun c' => CryptoInv o c'.conn) :=
  (alarmIfOutstanding_ends hc).imp fun _ hc' => hc' ▸ hc

theorem processAckFrame_inv (hc : CryptoInv o c.conn) (frame : ReadAckFrame) :
    Ends (fun _ => True) (processAckFrame (cryptoHandlers o) pnSpace frame times c)
      (fun c' => CryptoInv o c'.conn) := by
  unfold AlarmConn.processAckFrame
  refine (ends_liftSend_const (hc.ackOutstandings frame times)).bind fun r hr => ?_
  obtain ⟨conn, newly, acked⟩ := r
  have hloss : Ends (fun _ => True)
      (handleAckForLoss (cryptoHandlers o) newly acked times.ackReceiveTime pnSpace
        { c with conn }) (fun c' => CryptoInv o c'.conn) := by
    unfold AlarmConn.handleAckForLoss
    have hget : Ends (fun _ => True) (getAckState conn pnSpace :
        Except (SendFailure (CryptoFailure ε)) AckState) _ :=
      (getAckState_ends (A := fun _ => True) (E := fun _ => False) (.inl trivial)).forget
    refine (ends_liftSend_const hget).bind fun a ha => ?_
    exact (detectLossPackets_inv (CryptoInv.newlyAcked hr ha newly) _ _ _).bind
      fun c' hc' => alarmIfOutstanding_inv hc'
  refine hloss.bind fun c' hc' => ?_
  exact (ends_liftSend_const (hc'.clearOldOutstandingPackets times.ackReceiveTime)).bind
    fun _ hconn => .ok hconn

theorem markZeroRttPacketsLost_inv (hc : CryptoInv o c.conn)
    {f : SendConn (CryptoState ρ) → AlarmConn (CryptoState ρ)} (hf : ∀ conn, (f conn).conn = conn) :
    Ends (fun _ => True)
      (liftSend (markZeroRttPacketsLost (cryptoHandlers o) c.conn) >>= fun conn => .ok (f conn))
      (fun c' => CryptoInv o c'.conn) :=
  (ends_liftSend_const hc.markZeroRttPacketsLost).bind fun conn hconn =>
    .ok ((hf conn).symm ▸ hconn)

theorem setLossDetectionAlarm_inv (hc : CryptoInv o c.conn) (hasDataToWrite : Bool) :
    Ends (fun _ => True)
      (c.setLossDetectionAlarm hasDataToWrite : Except (AlarmFailure (CryptoFailure ε)) _)
      (fun c' => CryptoInv o c'.conn) := by
  unfold AlarmConn.setLossDetectionAlarm
  refine Ends.any.bind fun n _ => ?_
  refine Ends.ite (fun _ => .ok hc) fun _ => ?_
  dsimp only
  refine Ends.ite (fun _ => .ok ?_) fun _ => .ok ?_
  · split <;> exact hc
  · split <;> exact hc

theorem onLossDetectionAlarm_inv (hc : CryptoInv o c.conn) (now : Nat) :
    Ends (fun _ => True)
      (c.onLossDetectionAlarm (cryptoEnv o maxNumPTOs earlyRetransmit0Rtt) now)
      (fun c' => CryptoInv o c'.conn) := by
  unfold AlarmConn.onLossDetectionAlarm
  refine Ends.ite (fun _ => .ok hc) fun _ => ?_
  refine Ends.bind (P := fun c' => CryptoInv o c'.conn) ?_ fun c' hc' => alarmIfOutstanding_inv hc'
  refine Ends.ite (fun _ => ?_) fun _ => ?_
  · unfold AlarmConn.onLossTimeAlarm
    refine Ends.ite (fun _ => .error trivial) fun _ => ?_
    exact Ends.any.bind fun a _ => detectLossPackets_inv hc _ _ _
  · unfold AlarmConn.onPTOAlarm
    refine Ends.ite (fun _ => .error trivial) fun _ => ?_
    refine Ends.ite (fun _ => ?_) fun _ => .ok hc
    exact markZeroRttPacketsLost_inv (c := { c with ptoCount := c.ptoCount + 1 }) hc fun _ => rfl

theorem sent_inv {frames : List QuicWriteFrame}
    {x : Except (SendFailure (CryptoFailure ε)) (SendConn (CryptoState ρ))}
    (hx : Ends (fun _ => True) x (CryptoInv o)) :
    Ends (fun _ => True) (c.sent frames x) (fun c' => CryptoInv o c'.conn) :=
  (ends_liftSend_const hx).bind fun _ hconn => .ok hconn

theorem runOp_inv (hc : CryptoInv o c.conn)
    (op : AlarmOp (CryptoState ρ) (CryptoFailure ε)) (hmay : c.mayRun op = true) :
    Ends (fun _ => True) (c.runOp (cryptoEnv o maxNumPTOs earlyRetransmit0Rtt) op)
      (fun c' => CryptoInv o c'.conn) := by
  cases op with
  | send packet sentTime =>
    obtain ⟨hschedules, hallowed⟩ := Bool.and_eq_true_iff.mp hmay
    refine Ends.ite (fun _ => sent_inv (hc.send ?_ hschedules hallowed)) fun _ => .ok hc
    intro hdsr
    cases hdsr
  | sendDsr frames sentTime =>
    have hnil : cryptoSpans frames = [] := List.isEmpty_iff.mp hmay
    have hschedules : c.conn.rest.schedules ⟨.keyPhaseZero, frames⟩ = true := by
      unfold CryptoState.schedules
      rw [if_neg (by simp)]
      dsimp only
      rw [hnil, SendLike.writesCryptoData]
    refine sent_inv (hc.send ?_ hschedules rfl)
    intro _ hspace
    cases hspace
  | clone index packet sentTime =>
    obtain ⟨hrebuilds, hallowed⟩ := Bool.and_eq_true_iff.mp hmay
    refine Ends.ite (fun _ => sent_inv (hc.clone (fun p hp => ?_) hallowed)) fun _ => .ok hc
    rw [hp] at hrebuilds
    exact hrebuilds
  | ack pnSpace frame times =>
    exact Ends.ite (fun _ => processAckFrame_inv hc frame) fun _ => .ok hc
  | installHandshakeKeys =>
    refine .ok ?_
    split <;> exact hc
  | doHandshake keys rejected =>
    rw [AlarmConn.runOp]
    dsimp only
    split
    · refine Ends.ite (fun _ => ?_) fun _ => .ok hc
      exact markZeroRttPacketsLost_inv
        (c := { c with keys.oneRttWriteCipher := true, keys.zeroRttRejected := rejected }) hc
        fun _ => rfl
    · refine Ends.ite (fun _ => ?_) fun _ => .ok hc
      exact markZeroRttPacketsLost_inv hc fun _ => rfl
  | discardInitial times =>
    refine Ends.ite (fun _ => ?_) fun _ => .ok hc
    refine implicitAckCryptoStream_inv (c := { c with keys.initialCiphers := false }) hc ?_
    intro hspace
    cases hspace
  | handshakeConfirmed times =>
    exact Ends.ite (fun _ => handshakeConfirmed_inv hc) fun _ => .ok hc
  | tune lossState transportSettings =>
    exact .ok ⟨⟨hc.inv.scanned, hc.inv.numbered, hc.inv.sorted, hc.inv.keyed⟩, hc.proper⟩
  | other f => cases hmay

theorem runCrypto_inv (hc : CryptoInv o c.conn) (e : CryptoEvent ρ ε) :
    Ends (fun _ => True) (c.runCrypto (cryptoEnv o maxNumPTOs earlyRetransmit0Rtt) e)
      (fun c' => CryptoInv o c'.conn) := by
  cases e with
  | op op => exact Ends.ite (fun hmay => runOp_inv hc op hmay) fun _ => .ok hc
  | writeCrypto space data =>
    refine .ok (hc.withRest fun owed hs => hs.setStream ?_ fun _ _ => rfl)
    exact ⟨⟨(hs space).balanced.sent, (hs space).balanced.laid, (hs space).balanced.sorted⟩,
      (hs space).noFin⟩
  | other f =>
    have hother : Ends (fun _ => True) (c.conn.rest.onOther f) _ :=
      c.conn.rest.onOther_ends f fun _ => trivial
    refine (ends_liftSend_const (ends_liftHandler_const hother)).bind fun rest hrest => .ok ?_
    exact hc.withRest fun _ hs => hs.of_eq hrest
  | discardSpace space times =>
    exact Ends.ite (fun _ => .ok hc) fun hspace => discardSpace_inv space hspace hc
  | endTurn hasDataToWrite => exact setLossDetectionAlarm_inv hc hasDataToWrite
  | lossTimeoutExpired now =>
    refine Ends.ite (fun _ => ?_) fun _ => .ok hc
    exact onLossDetectionAlarm_inv (c := { c with lossTimeoutScheduled := false }) hc now
  | happyEyeballs =>
    refine Ends.ite (fun _ => .ok hc) fun _ => ?_
    exact markZeroRttPacketsLost_inv hc fun _ => rfl
  | setKeys keys => exact .ok hc

end AlarmConn

/-! ### Safety -/

/-- Crypto streams to which nothing has been written. -/
def CryptoState.start (other : ρ) : CryptoState ρ := ⟨fun _ => .new, other⟩

theorem CryptoInv.start {c : SendConn (CryptoState ρ)} (o : OtherCrypto ρ ε)
    (hnew : c.outstandings = .empty) {other : ρ} (hrest : c.rest = .start other) :
    CryptoInv o c := by
  refine ⟨.new hnew ?_, ?_⟩
  · rw [hrest]
    intro space
    exact ⟨⟨.refl _, ⟨List.forall_mem_nil _, List.forall_mem_nil _, fun _ => Nat.zero_le _⟩, .nil⟩,
      List.forall_mem_nil _⟩
  · rw [hnew]
    exact List.forall_mem_nil _

/-- In every run, whatever was lost, sent again in pieces or cloned: when the crypto data of a
level has been written out, its implicit ack returns, and leaves no packet of the level and
no crypto data on its way. The loss visitor would have failed. -/
theorem implicitAckCryptoStream_safe (o : OtherCrypto ρ ε) (maxNumPTOs : Nat)
    (earlyRetransmit0Rtt : Bool) (initial handshake appData : AckState) (lossState : LossState)
    (transportSettings : TransportSettings) (other : ρ) (events : List (CryptoEvent ρ ε))
    (c : AlarmConn (CryptoState ρ))
    (hrun : events.foldlM (AlarmConn.runCrypto (cryptoEnv o maxNumPTOs earlyRetransmit0Rtt))
      (.start initial handshake appData lossState transportSettings (.start other)) = .ok c)
    (space : PacketNumberSpace) (hspace : space ≠ .appData)
    (hlevel : (c.conn.ackStates.get space).isSome = true)
    (hwritten : (c.conn.rest.cryptoStreams space).writeBuffer.empty = true) (times : AckTimes) :
    ∃ c', c.implicitAckCryptoStream (cryptoEnv o maxNumPTOs earlyRetransmit0Rtt) space times =
        .ok c' ∧
      (∀ p ∈ c'.conn.outstandings.packets, p.packetNumberSpace ≠ space) ∧
      (c'.conn.rest.cryptoStreams space).retransmissionBuffer = [] := by
  have hreach : Ends (fun _ => True)
      (events.foldlM (AlarmConn.runCrypto (cryptoEnv o maxNumPTOs earlyRetransmit0Rtt))
        (.start initial handshake appData lossState transportSettings (.start other)))
      (fun c => CryptoInv o c.conn) :=
    Ends.foldlM (I := fun (c : AlarmConn (CryptoState ρ)) _ => CryptoInv o c.conn)
      (fun c e _ hc => AlarmConn.runCrypto_inv hc e) (.start o rfl rfl)
  have hends : Ends _
      (c.implicitAckCryptoStream (cryptoEnv o maxNumPTOs earlyRetransmit0Rtt) space times) _ :=
    AlarmConn.implicitAckCryptoStream_ends (hreach.of_ok hrun) hspace hlevel
  simp only [hwritten, Bool.true_eq_false] at hends
  obtain ⟨c', hc', -, hnone, hnil⟩ := hends.exists_ok
  exact ⟨c', hc', hnone, hnil⟩

/-- Handlers that do nothing with other frames. -/
def idleCrypto : OtherCrypto Unit Empty where
  sent _ _ s := .ok s
  acked _ _ s := .ok s
  lost _ _ _ s := .ok s
  spuriousLoss _ s := .ok s
  findStream _ _ := false
  ackAcked _ s := s

/-- A chain of one element with the given bytes. -/
def Buf.ofBytes (bytes : Bytes) : Buf := some ⟨⟨bytes, 0, false⟩, []⟩

/-- Ten bytes are sent in one packet. It is lost, as the fifth packet is acknowledged; the
bytes are sent again in two pieces, and the packet with the first piece is cloned. -/
def crumbled : List (CryptoEvent Unit Empty) :=
  [.writeCrypto .initial (.ofBytes (List.replicate 10 0)),
    .op (.send ⟨.initial, [.writeCrypto 0 10]⟩ 0)] ++
  List.replicate 4 (.op (.send ⟨.initial, [.ping]⟩ 0)) ++
  [.op (.ack .initial (ackOf 4) ⟨1000000, 1000000⟩),
    .op (.send ⟨.initial, [.writeCrypto 0 4]⟩ 2000000),
    .op (.send ⟨.initial, [.writeCrypto 4 6]⟩ 2000000),
    .op (.clone 4 ⟨.initial, [.writeCrypto 0 4]⟩ (some 3000000))]

theorem implicitAckCryptoStream_crumbled :
    ∃ c c', crumbled.foldlM (AlarmConn.runCrypto (cryptoEnv idleCrypto 7 false))
        (.start ⟨0, none⟩ ⟨0, none⟩ ⟨0, none⟩ idleConn.lossState idleConn.transportSettings
          (.start ())) = .ok c ∧
      (c.conn.outstandings.packets.map fun p => (p.packetNum, p.declaredLost)) =
        [(0, true), (1, false), (2, false), (3, false), (5, false), (6, false), (7, false)] ∧
      c.implicitAckCryptoStream (cryptoEnv idleCrypto 7 false) .initial ⟨4000000, 4000000⟩ =
        .ok c' ∧
      (∀ p ∈ c'.conn.outstandings.packets, p.packetNumberSpace ≠ .initial) ∧
      (c'.conn.rest.cryptoStreams .initial).retransmissionBuffer = [] := by
  have hrun : ∃ c, crumbled.foldlM (AlarmConn.runCrypto (cryptoEnv idleCrypto 7 false))
        (.start ⟨0, none⟩ ⟨0, none⟩ ⟨0, none⟩ idleConn.lossState idleConn.transportSettings
          (.start ())) = .ok c ∧
      (c.conn.outstandings.packets.map fun p => (p.packetNum, p.declaredLost)) =
        [(0, true), (1, false), (2, false), (3, false), (5, false), (6, false), (7, false)] ∧
      (c.conn.ackStates.get .initial).isSome = true ∧
      (c.conn.rest.cryptoStreams .initial).writeBuffer.empty = true :=
    ⟨_, rfl, rfl, rfl, rfl⟩
  obtain ⟨c, hc, hpackets, hlevel, hwritten⟩ := hrun
  obtain ⟨c', hc', hnone, hnil⟩ := implicitAckCryptoStream_safe idleCrypto 7 false _ _ _ _ _ ()
    crumbled c hc .initial nofun hlevel hwritten ⟨4000000, 4000000⟩
  exact ⟨c, c', hc, hpackets, hc', hnone, hnil⟩

end MasqueQuic
