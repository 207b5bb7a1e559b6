/-
The loss alarm is consistent with the loss times.

A loss time belongs to a space that still has its ack state and a packet that is not declared
lost. Every function that takes such packets out of the queue either runs loss detection in
their space afterwards, or runs when the space has no loss time. A timer that is scheduled for
a loss time finds one when it fires, because every turn ends in `setLossDetectionAlarm`.
-/

import MasqueQuic.Quic.LossAlarm

namespace MasqueQuic

variable {σ ε α : Type}

/-! ### Packets that are not declared lost -/

/-- Some packet that was sent with the keys is not declared lost. -/
def SendConn.HasLive (c : SendConn σ) (key : ProtectionType) : Prop :=
  ∃ p ∈ c.outstandings.packets, p.declaredLost = false ∧ p.protectionType = key

/-- Some packet of the space is not declared lost. -/
def SendConn.Lives (c : SendConn σ) (space : PacketNumberSpace) : Prop :=
  ∃ p ∈ c.outstandings.packets, isOutstanding space p = true

/-- What a step does to the packets that are not declared lost: those with some keys may go,
and new ones have some keys only. -/
structure SendConn.Moves (c c' : SendConn σ) (Gone New : ProtectionType → Prop) : Prop where
  queue : QueueInv c'
  states : ∀ s, (c'.ackStates.get s).isSome = (c.ackStates.get s).isSome
  stays : ∀ key, c.HasLive key → Gone key ∨ c'.HasLive key
  old : ∀ key, c'.HasLive key → New key ∨ c.HasLive key

section Moves

variable {h : Handlers σ ε} {c c' : SendConn σ} {pnSpace : PacketNumberSpace}
  {p : OutstandingPacket} {packets : List OutstandingPacket}

theorem isOutstanding_iff :
    isOutstanding pnSpace p = true ↔ p.declaredLost = false ∧ p.packetNumberSpace = pnSpace := by
  simp [isOutstanding]

theorem SendConn.lives_iff :
    c.Lives pnSpace ↔ ∃ key, protectionTypeToPacketNumberSpace key = pnSpace ∧ c.HasLive key := by
  constructor
  · rintro ⟨p, hp, hout⟩
    obtain ⟨hlost, hspace⟩ := isOutstanding_iff.mp hout
    exact ⟨p.protectionType, hspace, p, hp, hlost, rfl⟩
  · rintro ⟨_, hspace, p, hp, hlost, rfl⟩
    exact ⟨p, hp, isOutstanding_iff.mpr ⟨hlost, hspace⟩⟩

theorem Contract.Inv.queueInv {E : ε → Prop} {C : Contract h E} (hc : C.Inv c) : QueueInv c :=
  ⟨hc.scanned.upholds.tally, hc.scanned.dsr, hc.numbered, hc.sorted, hc.keyed⟩

theorem anyHandlers_spuriousMet (frame : ReadAckFrame) :
    (anyHandlers h).SpuriousMet pnSpace frame c :=
  fun _ => .of_forall (fun _ _ => trivial) _ _

/-- The one check that depends on the frames: DSR frames are sent in DSR packets. -/
def OnDsrFrames (which : SendCheck) : Prop := which = .dsrPacket

/-- The failures that remain, with what the handlers throw. -/
def SendFailure.Permitted : SendFailure ε → Prop :=
  Allowed OnDsrFrames fun _ => True

/-- Loss detection leaves packets of other spaces alone, and takes back no loss. -/
theorem lossLoop_packets {q : LossParams} (k : OutstandingsCounters) (s : σ) :
    Ends (fun _ => True) (lossLoop h q packets k s) (fun r =>
      (∀ p ∈ packets, p.packetNumberSpace ≠ q.pnSpace → p ∈ r.1) ∧
        ∀ p ∈ r.1, p.declaredLost = false → p ∈ packets) := by
  have hself : ∀ packets : List OutstandingPacket,
      (∀ p ∈ packets, p.packetNumberSpace ≠ q.pnSpace → p ∈ packets) ∧
        ∀ p ∈ packets, p.declaredLost = false → p ∈ packets :=
    fun _ => ⟨fun _ hp _ => hp, fun _ hp _ => hp⟩
  induction packets generalizing k s with
  | nil => exact .ok (hself [])
  | cons p packets ih =>
    have hkeep : Ends (fun _ => True)
        (lossLoop h q packets k s >>= fun r => .ok (p :: r.1, r.2.1, r.2.2)) (fun r =>
          (∀ x ∈ p :: packets, x.packetNumberSpace ≠ q.pnSpace → x ∈ r.1) ∧
            ∀ x ∈ r.1, x.declaredLost = false → x ∈ p :: packets) := by
      refine (ih k s).bind fun r hr => .ok ⟨fun x hx hspace => ?_, fun x hx hlost => ?_⟩
      · exact (List.mem_cons.mp hx).elim (fun heq => heq ▸ List.mem_cons_self)
          fun hx => List.mem_cons_of_mem p (hr.1 x hx hspace)
      · exact (List.mem_cons.mp hx).elim (fun heq => heq ▸ List.mem_cons_self)
          fun hx => List.mem_cons_of_mem p (hr.2 x hx hlost)
    rw [lossLoop]
    refine Ends.ite (fun _ => .ok (hself (p :: packets))) fun _ => ?_
    refine Ends.ite (fun _ => hkeep) fun hown => ?_
    rw [not_or, not_not] at hown
    refine Ends.any.bind fun distance _ => ?_
    refine Ends.ite (fun _ => hkeep) fun _ => ?_
    refine Ends.any.bind fun t _ => Ends.any.bind fun k' _ => ?_
    refine (ih k' t).bind fun r hr => .ok ⟨fun x hx hspace => ?_, fun x hx hlost => ?_⟩
    · rcases List.mem_cons.mp hx with rfl | hx
      · exact absurd hown.1 hspace
      · exact List.mem_cons_of_mem _ (hr.1 x hx hspace)
    · rcases List.mem_cons.mp hx with rfl | hx
      · cases hlost
      · exact List.mem_cons_of_mem _ (hr.2 x hx hlost)

theorem detectLossPackets_packets (h : Handlers σ ε) (largestAcked : Option Nat) (lossTime : Nat)
    (ackedPackets : List AckPacket) (c : SendConn σ) :
    Ends (fun _ => True) (detectLossPackets h largestAcked lossTime pnSpace ackedPackets c)
      (fun c' =>
        (∀ p ∈ c.outstandings.packets, p.packetNumberSpace ≠ pnSpace →
          p ∈ c'.outstandings.packets) ∧
        ∀ p ∈ c'.outstandings.packets, p.declaredLost = false → p ∈ c.outstandings.packets) := by
  cases largestAcked with
  | none => exact .ok ⟨fun _ hp _ => hp, fun _ hp _ => hp⟩
  | some largestAcked =>
    have hsplit := List.takeWhile_append_dropWhile
      (p := fun p => !isOutstanding pnSpace p) (l := c.outstandings.packets)
    refine (lossLoop_packets _ _).bind fun r hr => .ok ⟨fun p hp hspace => ?_, fun p hp hlost => ?_⟩
    · rw [← hsplit] at hp
      rcases List.mem_append.mp hp with hp | hp
      · exact List.mem_append_left _ hp
      · exact List.mem_append_right _ (hr.1 p hp hspace)
    · rw [← hsplit]
      rcases List.mem_append.mp hp with hp | hp
      · exact List.mem_append_left _ hp
      · exact List.mem_append_right _ (hr.2 p hp hlost)

theorem QueueInv.detectLossPackets (hc : QueueInv c) (h : Handlers σ ε)
    (largestAcked : Option Nat) (lossTime : Nat) (ackedPackets : List AckPacket) :
    Ends SendFailure.Permitted
      (detectLossPackets h largestAcked lossTime pnSpace ackedPackets c)
      (fun c' => c.Moves c' (fun key => protectionTypeToPacketNumberSpace key = pnSpace)
        fun _ => False) := by
  have hdsr : OnDsrFrames .dsrPacket ∨ ∀ p ∈ c.outstandings.packets, p.DsrFrames := .inl rfl
  refine (((hc.anyHandlers h).detectLossPackets largestAcked lossTime ackedPackets hdsr).also
    (detectLossPackets_packets h largestAcked lossTime ackedPackets c)).imp fun c' hc' => ?_
  obtain ⟨⟨hinv, -, hstates, -⟩, hkept, hold⟩ := hc'
  refine ⟨hinv.queueInv, fun s => by rw [hstates], ?_, ?_⟩
  · rintro _ ⟨p, hp, hlost, rfl⟩
    by_cases hspace : p.packetNumberSpace = pnSpace
    · exact .inl hspace
    · exact .inr ⟨p, hkept p hp hspace, hlost, rfl⟩
  · rintro _ ⟨p, hp, hlost, rfl⟩
    exact .inr ⟨p, hold p hp hlost, hlost, rfl⟩

theorem QueueInv.ackOutstandings (hc : QueueInv c) (h : Handlers σ ε) (frame : ReadAckFrame)
    (times : AckTimes) :
    Ends SendFailure.Permitted (ackOutstandings h pnSpace frame times c)
      (fun r => c.Moves r.1 (fun key => protectionTypeToPacketNumberSpace key = pnSpace)
          (fun _ => False) ∧
        r.1.outstandings.packets =
          c.outstandings.packets.filter fun p => !acks pnSpace frame.ackBlocks p) := by
  refine ((hc.anyHandlers h).ackOutstandings (anyHandlers_spuriousMet frame)).imp fun r hr => ?_
  obtain ⟨hinv, -, hstates, hpackets, -⟩ := hr
  refine ⟨⟨hinv.queueInv, fun s => by rw [hstates], ?_, ?_⟩, hpackets⟩
  · rintro _ ⟨p, hp, hlost, rfl⟩
    by_cases hspace : p.packetNumberSpace = pnSpace
    · exact .inl hspace
    · refine .inr ⟨p, ?_, hlost, rfl⟩
      rw [hpackets]
      exact List.mem_filter.mpr ⟨hp, by rw [acks_foreign hspace]; rfl⟩
  · rintro _ ⟨p, hp, hlost, rfl⟩
    rw [hpackets] at hp
    exact .inr ⟨p, List.mem_of_mem_filter hp, hlost, rfl⟩

/-- Only packets that were declared lost are cleared. -/
theorem QueueInv.clearOldOutstandingPackets (hc : QueueInv c) (h : Handlers σ ε) (time : Nat) :
    Ends SendFailure.Permitted
      (clearOldOutstandingPackets time pnSpace c : Except (SendFailure ε) (SendConn σ))
      (fun c' => c.Moves c' (fun _ => False) (fun _ => False) ∧
        ∀ p ∈ c'.outstandings.packets, p ∈ c.outstandings.packets) := by
  refine ((hc.anyHandlers h).clearOldOutstandingPackets time).imp fun c' hc' => ?_
  obtain ⟨hinv, -, hstates, -, front, back, hsplit, hold, hpackets⟩ := hc'
  have hsub : ∀ p ∈ c'.outstandings.packets, p ∈ c.outstandings.packets := by
    rw [hpackets, hsplit]
    exact (List.filter_sublist.append (List.Sublist.refl back)).subset
  refine ⟨⟨hinv.queueInv, fun s => by rw [hstates], ?_, ?_⟩, hsub⟩
  · rintro _ ⟨p, hp, hlost, rfl⟩
    refine .inr ⟨p, ?_, hlost, rfl⟩
    rw [hsplit] at hp
    rw [hpackets]
    rcases List.mem_append.mp hp with hp | hp
    · refine List.mem_append_left _ (List.mem_filter.mpr ⟨hp, ?_⟩)
      have hspace : p.packetNumberSpace ≠ pnSpace := by
        intro hspace
        rw [(hold p hp hspace).1] at hlost
        cases hlost
      simpa [own] using hspace
    · exact List.mem_append_right _ hp
  · rintro _ ⟨p, hp, hlost, rfl⟩
    exact .inr ⟨p, hsub p hp, hlost, rfl⟩

/-! ### Rejected 0-RTT packets -/

theorem zeroRttLoop_packets (k : OutstandingsCounters) (s : σ) :
    Ends (fun _ => True) (zeroRttLoop h packets k s) (fun r =>
      r.1 = packets.filter fun p =>
        !decide (isOutstanding .appData p = true ∧ p.protectionType = .zeroRtt)) := by
  induction packets generalizing k s with
  | nil => exact .ok rfl
  | cons p packets ih =>
    rw [zeroRttLoop]
    refine Ends.ite (fun hzero => ?_) fun hzero => ?_
    · refine Ends.any.bind fun t _ => Ends.any.bind fun k' _ => ?_
      refine (ih k' t).imp fun r hr => ?_
      rw [hr, List.filter_cons_of_neg (by simpa using hzero)]
    · refine (ih k s).bind fun r hr => .ok ?_
      rw [hr, List.filter_cons_of_pos (by rw [decide_eq_false hzero]; rfl)]

/-- The 0-RTT packets go, and nothing else. -/
theorem QueueInv.markZeroRttPacketsLost (hc : QueueInv c) (h : Handlers σ ε) :
    Ends SendFailure.Permitted (markZeroRttPacketsLost h c)
      (fun c' => c.Moves c' (· = .zeroRtt) (fun _ => False) ∧ ¬ c'.HasLive .zeroRtt) := by
  have hqueue : Ends (fun _ => True) (MasqueQuic.markZeroRttPacketsLost h c) (fun c' =>
      c'.outstandings.packets = c.outstandings.packets.filter fun p =>
        !decide (isOutstanding .appData p = true ∧ p.protectionType = .zeroRtt)) :=
    (zeroRttLoop_packets _ _).bind fun r hr => .ok hr
  refine ((hc.anyHandlers h).markZeroRttPacketsLost.also hqueue).imp fun c' hc' => ?_
  obtain ⟨⟨hinv, -, hcont⟩, hpackets⟩ := hc'
  have hmem : ∀ p, p ∈ c'.outstandings.packets ↔ p ∈ c.outstandings.packets ∧
      ¬ (isOutstanding .appData p = true ∧ p.protectionType = .zeroRtt) := by
    intro p
    rw [hpackets, List.mem_filter]
    simp only [Bool.not_eq_true', decide_eq_false_iff_not]
  refine ⟨⟨hinv.queueInv, hcont.states, ?_, ?_⟩, ?_⟩
  · rintro _ ⟨p, hp, hlost, rfl⟩
    by_cases hzero : p.protectionType = .zeroRtt
    · exact .inl hzero
    · exact .inr ⟨p, (hmem p).mpr ⟨hp, fun hgone => hzero hgone.2⟩, hlost, rfl⟩
  · rintro _ ⟨p, hp, hlost, rfl⟩
    exact .inr ⟨p, ((hmem p).mp hp).1, hlost, rfl⟩
  · rintro ⟨p, hp, hlost, hzero⟩
    refine ((hmem p).mp hp).2 ⟨isOutstanding_iff.mpr ⟨hlost, ?_⟩, hzero⟩
    rw [OutstandingPacket.packetNumberSpace, hzero]
    rfl

/-! ### New packets -/

variable {packet : RegularQuicWritePacket} {packetEvent : Option PacketEvent} {sentTime : Nat}
  {isDSRPacket : Bool}

/-- At most a packet with the given keys is new. -/
def SendConn.Gains (c c' : SendConn σ) (new : ProtectionType) : Prop :=
  (∀ key, c.HasLive key → c'.HasLive key) ∧
    ∀ key, c'.HasLive key → key = new ∨ c.HasLive key

theorem SendConn.Gains.refl (c : SendConn σ) (new : ProtectionType) : c.Gains c new :=
  ⟨fun _ hkey => hkey, fun _ hkey => .inr hkey⟩

theorem updateConnection_gains (h : Handlers σ ε) (c : SendConn σ) :
    Ends (fun _ => True) (updateConnection h c packetEvent packet sentTime isDSRPacket)
      (fun c' => c.Gains c' packet.protectionType) := by
  unfold updateConnection
  refine Ends.any.bind fun a _ => Ends.any.bind fun t _ => ?_
  refine Ends.ite (fun _ => .ok (.refl c _)) fun _ => ?_
  refine Ends.any.bind fun _ _ => .ok ⟨?_, ?_⟩
  · rintro _ ⟨p, hp, hlost, rfl⟩
    exact ⟨p, (insertPosition_perm _ _).mem_iff.mpr (List.mem_cons_of_mem _ hp), hlost, rfl⟩
  · rintro _ ⟨p, hp, hlost, rfl⟩
    rcases List.mem_cons.mp ((insertPosition_perm _ _).mem_iff.mp hp) with rfl | hp
    · exact .inl rfl
    · exact .inr ⟨p, hp, hlost, rfl⟩

/-- The packet that is cloned stays what it is. -/
theorem cloneOutstandingPacket_hasLive {i : Nat} (hi : c.outstandings.packets[i]? = some p)
    (key : ProtectionType) :
    SendConn.HasLive { c with outstandings := (cloneOutstandingPacket c.outstandings i p).2 } key ↔
      c.HasLive key := by
  have hmap : (cloneOutstandingPacket c.outstandings i p).2.packets.map
        (fun p => (p.declaredLost, p.protectionType)) =
      c.outstandings.packets.map fun p => (p.declaredLost, p.protectionType) := by
    unfold cloneOutstandingPacket
    cases p.associatedEvent with
    | some event => rfl
    | none => exact map_set_eq (p := p) rfl hi
  have hiff : ∀ packets : List OutstandingPacket,
      (∃ p ∈ packets, p.declaredLost = false ∧ p.protectionType = key) ↔
        (false, key) ∈ packets.map fun p => (p.declaredLost, p.protectionType) := by
    intro packets
    simp only [List.mem_map, Prod.mk.injEq]
  exact (hiff _).trans (hmap ▸ (hiff _).symm)

theorem QueueInv.send (hc : QueueInv c) (h : Handlers σ ε)
    (hstate : (c.ackStates.get packet.packetNumberSpace).isSome = true)
    (hkey : isDSRPacket = true → packet.protectionType ≠ .zeroRtt) :
    Ends SendFailure.Permitted (updateConnection h c none packet sentTime isDSRPacket)
      (fun c' => c.Moves c' (fun _ => False) (· = packet.protectionType)) := by
  have hsend : Ends SendFailure.Permitted
      (updateConnection h c none packet sentTime isDSRPacket) _ :=
    (hc.anyHandlers h).send (.inr hstate) hkey fun a cs _ _ =>
      .of_forall (fun _ => trivial) fun _ => ⟨trivial, trivial⟩
  refine (hsend.also (updateConnection_gains h c)).imp fun c' hc' => ?_
  obtain ⟨⟨hinv, -, hcont⟩, hgains⟩ := hc'
  exact ⟨hinv.queueInv, hcont.states, fun key hkey => .inr (hgains.1 key hkey), hgains.2⟩

theorem clonePacket_gains (h : Handlers σ ε) (c : SendConn σ) (index : Nat)
    (sentTime : Option Nat) :
    Ends (fun _ => True) (clonePacket h c index packet sentTime)
      (fun c' => c.Gains c' packet.protectionType) := by
  unfold clonePacket
  cases hi : c.outstandings.packets[index]? with
  | none => exact .ok (.refl c _)
  | some p =>
    refine Ends.ite (fun _ => ?_) fun _ => .ok (.refl c _)
    have hcl := cloneOutstandingPacket_hasLive hi
    cases sentTime with
    | none => exact .ok ⟨fun key => (hcl key).mpr, fun key hkey => .inr ((hcl key).mp hkey)⟩
    | some sentTime =>
      refine (updateConnection_gains h _).imp fun c' hgains => ?_
      exact ⟨fun key hkey => hgains.1 key ((hcl key).mpr hkey),
        fun key hkey => (hgains.2 key hkey).imp_right (hcl key).mp⟩

theorem QueueInv.clonePacket (hc : QueueInv c) (h : Handlers σ ε) {index : Nat}
    {sentTime : Option Nat}
    (hstate : (c.ackStates.get packet.packetNumberSpace).isSome = true) :
    Ends SendFailure.Permitted (clonePacket h c index packet sentTime)
      (fun c' => c.Moves c' (fun _ => False) (· = packet.protectionType)) := by
  have hclone : Ends SendFailure.Permitted
      (MasqueQuic.clonePacket h c index packet sentTime) _ :=
    (hc.anyHandlers h).clonePacket (.inr hstate) (fun _ _ _ _ _ _ => trivial) fun p r _ _ _ _ _ =>
      .of_forall (fun _ => trivial) fun _ => ⟨trivial, trivial⟩
  refine (hclone.also (clonePacket_gains h c index sentTime)).imp fun c' hc' => ?_
  obtain ⟨⟨hinv, -, hcont⟩, hgains⟩ := hc'
  exact ⟨hinv.queueInv, hcont.states, fun key hkey => .inr (hgains.1 key hkey), hgains.2⟩

theorem QueueInv.numOutstanding (hc : QueueInv c) (h : Handlers σ ε) :
    Ends SendFailure.Permitted (c.outstandings.numOutstanding : Except (SendFailure ε) Nat)
      (fun n => ∀ key, c.HasLive key → 0 < n) := by
  refine (hc.anyHandlers h).scanned.numOutstanding.imp fun n hn => ?_
  rintro key ⟨p, hp, hlost, -⟩
  have hlt : c.outstandings.packets.countP (·.declaredLost) < c.outstandings.packets.length := by
    refine lt_of_le_of_ne List.countP_le_length fun hall => ?_
    have hplost := List.countP_eq_length.mp hall p hp
    rw [hlost] at hplost
    cases hplost
  rw [hn, hc.tally.declaredLostCount]
  omega

end Moves

/-! ### The earliest loss time -/

section Earliest

variable {times : PacketNumberSpace → Option Nat} {considerAppData : Bool} {time : Nat}

theorem earlierTimeAndSpace_some {res : Option Nat × PacketNumberSpace} (pns : PacketNumberSpace)
    (hres : ∀ time, res.1 = some time → times res.2 = some time) :
    ∀ time, (earlierTimeAndSpace times considerAppData res pns).1 = some time →
      times (earlierTimeAndSpace times considerAppData res pns).2 = some time := by
  unfold earlierTimeAndSpace
  cases hpns : times pns with
  | none => exact hres
  | some t =>
    dsimp only
    split
    · exact hres
    · split
      · exact fun time htime => hpns.trans htime
      · exact hres

/-- The earliest loss time is the loss time of the space it comes with. -/
theorem earliestTimeAndSpace_some (h : (earliestTimeAndSpace times considerAppData).1 = some time) :
    times (earliestTimeAndSpace times considerAppData).2 = some time := by
  have hinitial := @earlierTimeAndSpace_some times considerAppData (none, .initial) .initial nofun
  have hhandshake := @earlierTimeAndSpace_some times considerAppData _ .handshake hinitial
  exact earlierTimeAndSpace_some .appData hhandshake time h

/-- A loss time of the last space is looked at if it is considered. -/
theorem appData_none_of_earliest (h : (earliestTimeAndSpace times true).1 = none) :
    times .appData = none := by
  have hlast : ∀ (res : Option Nat × PacketNumberSpace) t, times .appData = some t →
      (earlierTimeAndSpace times true res .appData).1 ≠ none := by
    intro res t happ
    unfold earlierTimeAndSpace
    rw [happ]
    dsimp only
    rw [if_neg (by simp)]
    split
    · exact Option.some_ne_none t
    · next hall =>
        intro hnone
        rw [hnone] at hall
        exact hall rfl
  cases happ : times .appData with
  | none => rfl
  | some t => exact absurd h (hlast _ t happ)

/-- It makes no difference if there is none. -/
theorem earliestTimeAndSpace_congr (happ : times .appData = none) (considerAppData' : Bool) :
    earliestTimeAndSpace times considerAppData' = earliestTimeAndSpace times considerAppData := by
  have hother : ∀ res pns, pns ≠ .appData →
      earlierTimeAndSpace times considerAppData' res pns =
        earlierTimeAndSpace times considerAppData res pns := by
    intro res pns hpns
    unfold earlierTimeAndSpace
    simp only [hpns, false_and, if_false]
  have hlast : ∀ res b, earlierTimeAndSpace times b res .appData = res := by
    intro res b
    unfold earlierTimeAndSpace
    rw [happ]
  simp only [earliestTimeAndSpace, List.foldl_cons, List.foldl_nil, hlast]
  rw [hother _ .initial nofun, hother _ .handshake nofun]

end Earliest

/-! ### Loss times and outstanding packets -/

/-- The checks of the alarm never fail. -/
def AlarmFailure.Permitted : AlarmFailure ε → Prop
  | .send f => f.Permitted
  | .lossTimer => False
  | .exceededMaxPTO => True

theorem ends_liftSend {x : Except (SendFailure ε) α} {Q : α → Prop}
    (hx : Ends SendFailure.Permitted x Q) : Ends AlarmFailure.Permitted (liftSend x) Q := by
  cases x with
  | error f => exact hx
  | ok a => exact hx

theorem QueueInv.setAckState {c : SendConn σ} {pnSpace : PacketNumberSpace} {a a' : AckState}
    (hc : QueueInv c) (ha : c.ackStates.get pnSpace = some a)
    (hle : a.nextPacketNum ≤ a'.nextPacketNum) :
    c.Moves { c with ackStates := c.ackStates.set pnSpace a' } (fun _ => False)
      fun _ => False where
  queue := ⟨hc.tally, hc.dsr, hc.numbered.set ha hle, hc.sorted, hc.keyed⟩
  states s := by
    rw [AckStates.get_set]
    by_cases hs : s = pnSpace
    · rw [if_pos hs, hs, ha]
      rfl
    · rw [if_neg hs]
  stays _ hkey := .inr hkey
  old _ hkey := .inr hkey

namespace AlarmConn

variable {env : AlarmEnv σ ε} {h : Handlers σ ε} {c c' : AlarmConn σ} {conn : SendConn σ}
  {Off Off' : PacketNumberSpace → Prop} {pnSpace : PacketNumberSpace}
  {Gone New : ProtectionType → Prop} {times : AckTimes}

/-- The spaces with a loss time have their ack state and a packet that is not declared lost,
apart from those that loss detection is about to look at. -/
structure Timed (Off : PacketNumberSpace → Prop) (c : AlarmConn σ) : Prop where
  queue : QueueInv c.conn
  lossTime : ∀ space, (c.lossTimes space).isSome = true → Off space ∨
    (c.conn.ackStates.get space).isSome = true ∧ c.conn.Lives space
  appData : (c.lossTimes .appData).isSome = true → c.keys.oneRttWriteCipher = true
  rejected : c.keys.zeroRttRejected = true →
    c.keys.oneRttWriteCipher = true ∧ ¬ c.conn.HasLive .zeroRtt

/-- What acks and sends leave alone. -/
structure Follows (c c' : AlarmConn σ) : Prop where
  states : ∀ s, (c'.conn.ackStates.get s).isSome = (c.conn.ackStates.get s).isSome
  keys : c'.keys = c.keys
  method : c'.currentAlarmMethod = c.currentAlarmMethod
  scheduled : c'.lossTimeoutScheduled = c.lossTimeoutScheduled

theorem Follows.refl (c : AlarmConn σ) : c.Follows c := ⟨fun _ => rfl, rfl, rfl, rfl⟩

theorem Follows.trans {c'' : AlarmConn σ} (h : c.Follows c') (h' : c'.Follows c'') :
    c.Follows c'' where
  states s := (h'.states s).trans (h.states s)
  keys := h'.keys.trans h.keys
  method := h'.method.trans h.method
  scheduled := h'.scheduled.trans h.scheduled

theorem Timed.moves (ht : c.Timed Off) (hm : c.conn.Moves conn Gone New)
    (hoff : ∀ space, Off space → Off' space)
    (hgone : ∀ key, Gone key →
      (c.lossTimes (protectionTypeToPacketNumberSpace key)).isSome = true →
        Off' (protectionTypeToPacketNumberSpace key))
    (hnew : New .zeroRtt → c.keys.oneRttWriteCipher = false) : Timed Off' { c with conn } where
  queue := hm.queue
  lossTime space hspace := by
    rcases ht.lossTime space hspace with hoff' | ⟨hstate, hlives⟩
    · exact .inl (hoff space hoff')
    · obtain ⟨key, rfl, hkey⟩ := SendConn.lives_iff.mp hlives
      rcases hm.stays key hkey with hkey | hkey
      · exact .inl (hgone key hkey hspace)
      · exact .inr ⟨(hm.states _).trans hstate, SendConn.lives_iff.mpr ⟨key, rfl, hkey⟩⟩
  appData := ht.appData
  rejected hrejected := by
    obtain ⟨hcipher, hnone⟩ := ht.rejected hrejected
    refine ⟨hcipher, fun hlive => ?_⟩
    rcases hm.old _ hlive with hzero | hlive
    · have hno := hnew hzero
      rw [hcipher] at hno
      cases hno
    · exact hnone hlive

theorem earliestOutstanding_lives {o : OutstandingsInfo} {p : OutstandingPacket}
    (hp : earliestOutstanding o pnSpace = some p) :
    p ∈ o.packets ∧ isOutstanding pnSpace p = true := by
  have hfound := List.find?_some hp
  exact ⟨List.mem_of_find?_eq_some hp, (Bool.and_eq_true_iff.mp hfound).1⟩

/-- Loss detection sets the loss time of its space anew. -/
theorem Timed.detectLossPackets (ht : c.Timed (· = pnSpace)) (h : Handlers σ ε)
    (largestAcked : Option Nat) (lossTime : Nat) (ackedPackets : List AckPacket)
    (hkey : pnSpace = .appData → c.keys.oneRttWriteCipher = true)
    (hstate : (c.conn.ackStates.get pnSpace).isSome = true) :
    Ends AlarmFailure.Permitted
      (detectLossPackets h largestAcked lossTime pnSpace ackedPackets c)
      (fun c' => c'.Timed (fun _ => False) ∧ c.Follows c' ∧
        ∀ key, c'.conn.HasLive key → c.conn.HasLive key) := by
  unfold AlarmConn.detectLossPackets
  refine (ends_liftSend (ht.queue.detectLossPackets h largestAcked lossTime ackedPackets)).bind
    fun conn hm => .ok ⟨?_, ⟨hm.states, rfl, rfl, rfl⟩, fun key hkey => ?_⟩
  · have hmoved := ht.moves hm (fun _ hoff => hoff) (fun _ hgone _ => hgone) False.elim
    refine ⟨hmoved.queue, fun space hspace => .inr ?_, fun hspace => ?_, hmoved.rejected⟩
    · by_cases hown : space = pnSpace
      · subst hown
        dsimp only at hspace
        rw [Function.update_self] at hspace
        refine ⟨(hm.states space).trans hstate, ?_⟩
        split at hspace
        · rw [Option.isSome_map] at hspace
          obtain ⟨p, hp⟩ := Option.isSome_iff_exists.mp hspace
          exact ⟨p, earliestOutstanding_lives hp⟩
        · cases hspace
      · dsimp only at hspace
        rw [Function.update_of_ne hown] at hspace
        exact (hmoved.lossTime space hspace).resolve_left hown
    · by_cases hown : pnSpace = .appData
      · exact hkey hown
      · dsimp only at hspace
        rw [Function.update_of_ne (Ne.symm hown)] at hspace
        exact ht.appData hspace
  · exact (hm.old key hkey).resolve_left id

/-- After loss detection the alarm is pending if there is a loss time. -/
theorem Timed.alarmIfOutstanding (ht : c.Timed fun _ => False) (h : Handlers σ ε) :
    Ends AlarmFailure.Permitted (c.alarmIfOutstanding : Except (AlarmFailure ε) (AlarmConn σ))
      (fun c' => c'.Timed (fun _ => False) ∧ c.Follows c' ∧ c'.conn = c.conn ∧
        ∀ space, (c'.lossTimes space).isSome = true → c'.alarmPending = true) := by
  refine (ends_liftSend (ht.queue.numOutstanding h)).bind fun n hn => .ok ?_
  refine ⟨⟨ht.queue, ht.lossTime, ht.appData, ht.rejected⟩, ⟨fun _ => rfl, rfl, rfl, rfl⟩, rfl,
    fun space hspace => ?_⟩
  obtain ⟨-, hlives⟩ := (ht.lossTime space hspace).resolve_left id
  obtain ⟨key, -, hkey⟩ := SendConn.lives_iff.mp hlives
  exact decide_eq_true (hn key hkey)

theorem Timed.handleAckForLoss (ht : c.Timed (· = pnSpace)) (h : Handlers σ ε)
    (largestNewlyAcked : Option Nat) (ackedPackets : List AckPacket) (ackTime : Nat)
    (hkey : pnSpace = .appData → c.keys.oneRttWriteCipher = true)
    (hstate : (c.conn.ackStates.get pnSpace).isSome = true) :
    Ends AlarmFailure.Permitted
      (handleAckForLoss h largestNewlyAcked ackedPackets ackTime pnSpace c)
      (fun c' => c'.Timed (fun _ => False) ∧ c.Follows c' ∧
        (∀ key, c'.conn.HasLive key → c.conn.HasLive key) ∧
        ∀ space, (c'.lossTimes space).isSome = true → c'.alarmPending = true) := by
  unfold AlarmConn.handleAckForLoss
  refine (ends_liftSend (getAckState_ends (.inr hstate))).bind fun a ha => ?_
  have hnext : a.nextPacketNum ≤ (a.newlyAcked largestNewlyAcked).nextPacketNum := by
    cases largestNewlyAcked <;> exact le_rfl
  have hm := ht.queue.setAckState ha hnext
  have hmoved := ht.moves hm (fun _ hoff => hoff) (fun _ hgone => False.elim hgone) False.elim
  have hset : Timed (· = pnSpace) { c with
      conn := { c.conn with
        ackStates := c.conn.ackStates.set pnSpace (a.newlyAcked largestNewlyAcked) }
      ptoCount := if largestNewlyAcked.isSome then 0 else c.ptoCount } :=
    ⟨hmoved.queue, hmoved.lossTime, hmoved.appData, hmoved.rejected⟩
  refine (hset.detectLossPackets h _ ackTime ackedPackets hkey
    ((hm.states pnSpace).trans hstate)).bind fun c₁ hc₁ => ?_
  obtain ⟨ht₁, hf₁, hold₁⟩ := hc₁
  refine (ht₁.alarmIfOutstanding h).imp fun c₂ hc₂ => ?_
  obtain ⟨ht₂, hf₂, hconn, hpending⟩ := hc₂
  have hf : c.Follows c₁ := ⟨fun s => (hf₁.states s).trans (hm.states s), hf₁.keys, hf₁.method,
    hf₁.scheduled⟩
  refine ⟨ht₂, hf.trans hf₂, fun key hkey => ?_, hpending⟩
  rw [hconn] at hkey
  exact hold₁ key hkey

theorem Timed.processAckFrame (ht : c.Timed fun _ => False) (h : Handlers σ ε)
    (frame : ReadAckFrame) (hkey : pnSpace = .appData → c.keys.oneRttWriteCipher = true)
    (hstate : (c.conn.ackStates.get pnSpace).isSome = true) :
    Ends AlarmFailure.Permitted (processAckFrame h pnSpace frame times c)
      (fun c' => c'.Timed (fun _ => False) ∧ c.Follows c' ∧
        (∀ key, c'.conn.HasLive key → ∃ p ∈ c.conn.outstandings.packets,
          p.protectionType = key ∧ acks pnSpace frame.ackBlocks p = false) ∧
        ∀ space, (c'.lossTimes space).isSome = true → c'.alarmPending = true) := by
  unfold AlarmConn.processAckFrame
  refine (ends_liftSend (ht.queue.ackOutstandings h frame times)).bind fun r hr => ?_
  obtain ⟨conn, newly, acked⟩ := r
  obtain ⟨hm, hpackets⟩ := hr
  have ht₁ : Timed (· = pnSpace) { c with conn } :=
    ht.moves hm (fun _ hoff => False.elim hoff) (fun _ hgone _ => hgone) False.elim
  refine (ht₁.handleAckForLoss h newly acked times.ackReceiveTime hkey
    ((hm.states pnSpace).trans hstate)).bind fun c₂ hc₂ => ?_
  obtain ⟨ht₂, hf₂, hold₂, hpending⟩ := hc₂
  refine (ends_liftSend (ht₂.queue.clearOldOutstandingPackets h times.ackReceiveTime)).bind
    fun conn₃ hc₃ => .ok ⟨?_, ?_, fun key hkey => ?_, hpending⟩
  · exact ht₂.moves hc₃.1 (fun _ => id) (fun _ hgone => False.elim hgone) False.elim
  · exact ⟨fun s => (hc₃.1.states s).trans ((hf₂.states s).trans (hm.states s)), hf₂.keys,
      hf₂.method, hf₂.scheduled⟩
  · obtain ⟨p, hp, hlost, hprotection⟩ := hold₂ key ((hc₃.1.old key hkey).resolve_left id)
    rw [hpackets] at hp
    obtain ⟨hp, hnot⟩ := List.mem_filter.mp hp
    exact ⟨p, hp, hprotection, by simpa using hnot⟩

/-! ### Turns -/

/-- The invariant within a turn: where the timer is not armed for the loss times that there
are, it is to be armed again. -/
structure Turning (c : AlarmConn σ) : Prop where
  timed : c.Timed fun _ => False
  armed : c.earliestLossTimer.1 ≠ none → c.lossTimeoutScheduled = true →
    c.currentAlarmMethod = .pto → c.alarmPending = true

theorem Turning.of_pending (ht : c.Timed fun _ => False)
    (hpending : ∀ space, (c.lossTimes space).isSome = true → c.alarmPending = true) :
    c.Turning := by
  refine ⟨ht, fun hsome _ _ => ?_⟩
  obtain ⟨time, htime⟩ := Option.ne_none_iff_exists'.mp hsome
  have hspace := earliestTimeAndSpace_some htime
  exact hpending _ (by rw [hspace]; rfl)

/-- A step that does not look at the loss times. -/
theorem Turning.moves (hc : c.Turning) (hm : c.conn.Moves conn Gone New)
    (hgone : ∀ key, Gone key →
      c.lossTimes (protectionTypeToPacketNumberSpace key) = none)
    (hnew : New .zeroRtt → c.keys.oneRttWriteCipher = false) (alarmPending : Bool)
    (hpending : c.alarmPending = true → alarmPending = true) :
    Turning { c with conn, alarmPending } := by
  have ht : Timed (fun _ => False) { c with conn } :=
    hc.timed.moves hm (fun _ => id)
      (fun key hkey hsome => by rw [hgone key hkey] at hsome; cases hsome) hnew
  refine ⟨⟨ht.queue, ht.lossTime, ht.appData, ht.rejected⟩, fun hsome hscheduled hmethod => ?_⟩
  exact hpending (hc.armed hsome hscheduled hmethod)

/-- After the implicit ack the space has no loss time. -/
theorem Turning.implicitAckCryptoStream (hc : c.Turning) (hspace : pnSpace ≠ .appData)
    (hstate : (c.conn.ackStates.get pnSpace).isSome = true) :
    Ends AlarmFailure.Permitted (implicitAckCryptoStream env pnSpace times c)
      (fun c' => c'.Turning ∧ c.Follows c' ∧ c'.lossTimes pnSpace = none) := by
  unfold AlarmConn.implicitAckCryptoStream
  refine (ends_liftSend (getAckState_ends (.inr hstate))).bind fun a _ => ?_
  cases hnums : (c.conn.outstandings.packets.filter (own pnSpace)).map (·.packetNum) with
  | nil =>
    refine .ok ⟨hc, .refl c, ?_⟩
    by_contra hsome
    obtain ⟨-, p, hp, hout⟩ := (hc.timed.lossTime pnSpace
      (Option.isSome_iff_ne_none.mpr hsome)).resolve_left id
    have hmem : p ∈ c.conn.outstandings.packets.filter (own pnSpace) :=
      List.mem_filter.mpr ⟨hp, by simpa [own] using (isOutstanding_iff.mp hout).2⟩
    rw [List.map_eq_nil_iff.mp hnums] at hmem
    cases hmem
  | cons first others =>
    refine (hc.timed.processAckFrame env.implicitHandlers (implicitAck first others)
      (fun happ => absurd happ hspace) hstate).bind fun c' hc' => ?_
    obtain ⟨ht, hf, hleft, hpending⟩ := hc'
    have hnone : c'.lossTimes pnSpace = none := by
      by_contra hsome
      obtain ⟨-, hlives⟩ := (ht.lossTime pnSpace
        (Option.isSome_iff_ne_none.mpr hsome)).resolve_left id
      obtain ⟨key, hkey, hlive⟩ := SendConn.lives_iff.mp hlives
      obtain ⟨p, hp, rfl, hnot⟩ := hleft key hlive
      rw [acks_implicitAck hnums hp hkey] at hnot
      cases hnot
    have hdone : Ends SendFailure.Permitted
        (liftHandler (env.cryptoDone pnSpace c'.conn.rest)) fun _ => True :=
      ends_liftHandler (.of_forall (fun _ => trivial) fun _ => trivial)
    refine (ends_liftSend hdone).bind fun rest _ => .ok ⟨?_, ?_, hnone⟩
    · refine .of_pending ?_ hpending
      exact ⟨⟨ht.queue.tally, ht.queue.dsr, ht.queue.numbered, ht.queue.sorted, ht.queue.keyed⟩,
        ht.lossTime, ht.appData, ht.rejected⟩
    · exact ⟨hf.states, hf.keys, hf.method, hf.scheduled⟩

theorem Turning.discardSpace (hc : c.Turning) (pnSpace : PacketNumberSpace)
    (hspace : pnSpace ≠ .appData) (hstate : (c.conn.ackStates.get pnSpace).isSome = true) :
    Ends AlarmFailure.Permitted (discardSpace env pnSpace times c)
      (fun c' => c'.Turning ∧ c'.keys = c.keys ∧ ∀ s, s ≠ pnSpace →
        (c'.conn.ackStates.get s).isSome = (c.conn.ackStates.get s).isSome) := by
  unfold AlarmConn.discardSpace
  refine (hc.implicitAckCryptoStream hspace hstate).bind fun c' hc' => .ok ?_
  obtain ⟨⟨ht, harmed⟩, hf, hnone⟩ := hc'
  have hstates : ∀ s, s ≠ pnSpace → ((c'.conn.ackStates.reset pnSpace).get s).isSome =
      (c.conn.ackStates.get s).isSome := by
    intro s hs
    rw [AckStates.get_reset_of_ne hs, hf.states s]
  refine ⟨⟨⟨?_, fun s hs => .inr ?_, ht.appData, ht.rejected⟩, harmed⟩, hf.keys, hstates⟩
  · exact ⟨ht.queue.tally, ht.queue.dsr, ht.queue.numbered.reset pnSpace, ht.queue.sorted,
      ht.queue.keyed⟩
  · have hne : s ≠ pnSpace := by
      rintro rfl
      rw [hnone] at hs
      cases hs
    obtain ⟨hstate', hlives⟩ := (ht.lossTime s hs).resolve_left id
    refine ⟨?_, hlives⟩
    rw [hstates s hne, ← hf.states s]
    exact hstate'

/-- Before the handshake is confirmed every space has its ack state, and afterwards there are
no ciphers for the first two. -/
structure Keyed (c : AlarmConn σ) : Prop where
  unconfirmed : c.keys.confirmed = false → ∀ space, (c.conn.ackStates.get space).isSome = true
  confirmed : c.keys.confirmed = true → c.keys.initialCiphers = false ∧
    c.keys.handshakeCiphers = false ∧ c.keys.handshakeKeys = true

theorem Keyed.follows (hk : c.Keyed) (hf : c.Follows c') : c'.Keyed where
  unconfirmed hconfirmed space := by
    rw [hf.keys] at hconfirmed
    exact (hf.states space).trans (hk.unconfirmed hconfirmed space)
  confirmed hconfirmed := by
    rw [hf.keys] at hconfirmed ⊢
    exact hk.confirmed hconfirmed

/-- A space with ciphers has its ack state. -/
theorem Keyed.state_of_canUse (hk : c.Keyed) (huse : c.canUse pnSpace = true) :
    (c.conn.ackStates.get pnSpace).isSome = true := by
  cases hconfirmed : c.keys.confirmed with
  | false => exact hk.unconfirmed hconfirmed pnSpace
  | true =>
    obtain ⟨hinitial, hhandshake, -⟩ := hk.confirmed hconfirmed
    cases pnSpace with
    | initial => exact absurd (hinitial.symm.trans huse) Bool.false_ne_true
    | handshake => exact absurd (hhandshake.symm.trans huse) Bool.false_ne_true
    | appData => rfl

theorem Turning.handshakeConfirmed (hc : c.Turning) (hk : c.Keyed)
    (hkeys : c.keys.handshakeKeys = true) (hconfirmed : ¬ c.keys.confirmed = true) :
    Ends AlarmFailure.Permitted (handshakeConfirmed env times c)
      (fun c' => c'.Turning ∧ c'.Keyed) := by
  unfold AlarmConn.handshakeConfirmed
  have hstates := hk.unconfirmed (Bool.eq_false_iff.mpr hconfirmed)
  have hdropped : Turning { c with keys.initialCiphers := false } :=
    ⟨⟨hc.timed.queue, hc.timed.lossTime, hc.timed.appData, hc.timed.rejected⟩, hc.armed⟩
  refine (hdropped.discardSpace .initial nofun (hstates .initial)).bind fun c₁ hc₁ => ?_
  obtain ⟨hc₁, hkeys₁, hstates₁⟩ := hc₁
  have hdropped₁ : Turning { c₁ with
      keys.handshakeCiphers := false
      keys.confirmed := true } :=
    ⟨⟨hc₁.timed.queue, hc₁.timed.lossTime, hc₁.timed.appData, hc₁.timed.rejected⟩, hc₁.armed⟩
  have hhandshake : (c₁.conn.ackStates.get .handshake).isSome = true :=
    (hstates₁ .handshake nofun).trans (hstates .handshake)
  refine (hdropped₁.discardSpace .handshake nofun hhandshake).imp fun c₂ hc₂ => ?_
  obtain ⟨hc₂, hkeys₂, -⟩ := hc₂
  refine ⟨hc₂, ?_, ?_⟩
  · rw [hkeys₂]
    exact nofun
  · rw [hkeys₂, hkeys₁]
    exact fun _ => ⟨rfl, rfl, hkeys⟩

theorem Turning.sent {frames : List QuicWriteFrame} {x : Except (SendFailure ε) (SendConn σ)}
    (hc : c.Turning) (hk : c.Keyed)
    (hx : Ends SendFailure.Permitted x (c.conn.Moves · (fun _ => False) New))
    (hnew : New .zeroRtt → c.keys.oneRttWriteCipher = false) :
    Ends AlarmFailure.Permitted (c.sent frames x) (fun c' => c'.Turning ∧ c'.Keyed) := by
  refine (ends_liftSend hx).bind fun conn hm => .ok ⟨?_, ?_⟩
  · refine hc.moves hm (fun _ => False.elim) hnew _ fun hpending => ?_
    rw [hpending]
    rfl
  · exact hk.follows ⟨hm.states, rfl, rfl, rfl⟩

theorem canSend_spec {packet : RegularQuicWritePacket} (hsend : c.canSend packet = true) :
    c.canUse packet.packetNumberSpace = true ∧
      (.zeroRtt = packet.protectionType → c.keys.oneRttWriteCipher = false) := by
  simp only [canSend, Bool.and_eq_true, Bool.not_eq_true', Bool.and_eq_false_iff] at hsend
  refine ⟨hsend.1, fun hzero => hsend.2.resolve_left fun hne => ?_⟩
  rw [← hzero] at hne
  cases hne

theorem canAck_spec (hack : c.canAck pnSpace = true) :
    c.canUse pnSpace = true ∧ (pnSpace = .appData → c.keys.oneRttWriteCipher = true) := by
  simp only [canAck, Bool.and_eq_true, Bool.not_eq_true', Bool.and_eq_false_iff] at hack
  refine ⟨hack.1, ?_⟩
  rintro rfl
  simpa using hack.2

/-- 0-RTT packets are given up, when their space has no loss time or there are none. -/
theorem Turning.markZeroRttPacketsLost (hc : c.Turning) (h : Handlers σ ε)
    (hnone : c.lossTimes .appData = none ∨ ¬ c.conn.HasLive .zeroRtt) :
    Ends AlarmFailure.Permitted (liftSend (markZeroRttPacketsLost h c.conn))
      (fun conn => Turning { c with conn } ∧ c.Follows { c with conn } ∧
        ¬ conn.HasLive .zeroRtt) := by
  refine (ends_liftSend (hc.timed.queue.markZeroRttPacketsLost h)).imp fun conn hm => ?_
  obtain ⟨hm, hgone⟩ := hm
  refine ⟨?_, ⟨hm.states, rfl, rfl, rfl⟩, hgone⟩
  rcases hnone with hnone | hnone
  · refine hc.moves hm (fun key hkey => ?_) False.elim c.alarmPending id
    rw [hkey]
    exact hnone
  · have hm' : c.conn.Moves conn (fun _ => False) fun _ => False := by
      refine ⟨hm.queue, hm.states, fun key hkey => ?_, hm.old⟩
      rcases hm.stays key hkey with rfl | hlive
      · exact absurd hkey hnone
      · exact .inr hlive
    exact hc.moves hm' (fun _ => False.elim) False.elim c.alarmPending id

theorem Turning.doHandshake (hc : c.Turning) (hk : c.Keyed) (keys rejected : Bool) :
    Ends AlarmFailure.Permitted (c.runOp env (.doHandshake keys rejected))
      (fun c' => c'.Turning ∧ c'.Keyed) := by
  rw [runOp]
  by_cases hnew : keys = true ∧ ¬ c.keys.oneRttWriteCipher = true
  · simp only [if_pos hnew]
    have hnone : c.lossTimes .appData = none := by
      by_contra hsome
      exact hnew.2 (hc.timed.appData (Option.isSome_iff_ne_none.mpr hsome))
    cases rejected with
    | true =>
      refine Ends.bind (hc.markZeroRttPacketsLost env.handlers (.inl hnone)) fun conn hconn => ?_
      obtain ⟨⟨ht, harmed⟩, hf, hgone⟩ := hconn
      refine .ok ⟨⟨⟨ht.queue, ht.lossTime, fun _ => rfl, fun _ => ⟨rfl, hgone⟩⟩, ?_⟩, ?_⟩
      · rw [earliestLossTimer, earliestTimeAndSpace_congr hnone]
        exact harmed
      · have hk' := hk.follows hf
        exact ⟨hk'.unconfirmed, hk'.confirmed⟩
    | false =>
      refine .ok ⟨⟨⟨hc.timed.queue, hc.timed.lossTime, fun _ => rfl, nofun⟩, ?_⟩, ?_⟩
      · rw [earliestLossTimer, earliestTimeAndSpace_congr hnone]
        exact hc.armed
      · exact ⟨hk.unconfirmed, hk.confirmed⟩
  · simp only [if_neg hnew]
    refine Ends.ite (fun hrejected => ?_) fun _ => .ok ⟨hc, hk⟩
    refine Ends.bind (hc.markZeroRttPacketsLost env.handlers
      (.inr (hc.timed.rejected hrejected).2)) fun conn hconn => .ok ⟨hconn.1, ?_⟩
    exact hk.follows hconn.2.1

/-- One step within a turn. -/
theorem Turning.runOp (hc : c.Turning) (hk : c.Keyed) (op : AlarmOp σ ε) :
    Ends AlarmFailure.Permitted (c.runOp env op) (fun c' => c'.Turning ∧ c'.Keyed) := by
  cases op with
  | send packet sentTime =>
    rw [AlarmConn.runOp]
    refine Ends.ite (fun hsend => ?_) fun _ => .ok ⟨hc, hk⟩
    obtain ⟨huse, hzero⟩ := canSend_spec hsend
    exact hc.sent hk (hc.timed.queue.send env.handlers (hk.state_of_canUse huse) nofun) hzero
  | sendDsr frames sentTime =>
    rw [AlarmConn.runOp]
    have hstate : (c.conn.ackStates.get .appData).isSome = true := rfl
    exact hc.sent hk (hc.timed.queue.send env.handlers hstate fun _ => nofun) nofun
  | clone index packet sentTime =>
    rw [AlarmConn.runOp]
    refine Ends.ite (fun hsend => ?_) fun _ => .ok ⟨hc, hk⟩
    obtain ⟨huse, hzero⟩ := canSend_spec hsend
    exact hc.sent hk (hc.timed.queue.clonePacket env.handlers (hk.state_of_canUse huse)) hzero
  | ack pnSpace frame times =>
    rw [AlarmConn.runOp]
    refine Ends.ite (fun hack => ?_) fun _ => .ok ⟨hc, hk⟩
    obtain ⟨huse, hkey⟩ := canAck_spec hack
    refine (hc.timed.processAckFrame env.handlers frame hkey (hk.state_of_canUse huse)).imp
      fun c' hc' => ?_
    obtain ⟨ht, hf, -, hpending⟩ := hc'
    exact ⟨.of_pending ht hpending, hk.follows hf⟩
  | installHandshakeKeys =>
    rw [AlarmConn.runOp]
    refine .ok ?_
    by_cases hkeys : c.keys.handshakeKeys = true
    · rw [if_pos hkeys]
      exact ⟨hc, hk⟩
    · rw [if_neg hkeys]
      refine ⟨⟨⟨hc.timed.queue, hc.timed.lossTime, hc.timed.appData, hc.timed.rejected⟩,
        hc.armed⟩, hk.unconfirmed, fun hconfirmed => ?_⟩
      exact absurd (hk.confirmed hconfirmed).2.2 hkeys
  | doHandshake keys rejected => exact hc.doHandshake hk keys rejected
  | discardInitial times =>
    rw [AlarmConn.runOp]
    refine Ends.ite (fun hinitial => ?_) fun _ => .ok ⟨hc, hk⟩
    have hdropped : Turning { c with keys.initialCiphers := false } :=
      ⟨⟨hc.timed.queue, hc.timed.lossTime, hc.timed.appData, hc.timed.rejected⟩, hc.armed⟩
    have hkdropped : Keyed { c with keys.initialCiphers := false } :=
      ⟨hk.unconfirmed, fun hconfirmed => ⟨rfl, (hk.confirmed hconfirmed).2⟩⟩
    have hstate : (c.conn.ackStates.get .initial).isSome = true := hk.state_of_canUse hinitial
    have happ : PacketNumberSpace.initial ≠ .appData := nofun
    refine (hdropped.implicitAckCryptoStream happ hstate).imp fun c' hc' => ?_
    exact ⟨hc'.1, hkdropped.follows hc'.2.1⟩
  | handshakeConfirmed times =>
    rw [AlarmConn.runOp]
    exact Ends.ite (fun hguard => hc.handshakeConfirmed hk hguard.1 hguard.2.2)
      fun _ => .ok ⟨hc, hk⟩
  | tune lossState transportSettings =>
    rw [AlarmConn.runOp]
    have hq := hc.timed.queue
    exact .ok ⟨⟨⟨⟨hq.tally, hq.dsr, hq.numbered, hq.sorted, hq.keyed⟩, hc.timed.lossTime,
      hc.timed.appData, hc.timed.rejected⟩, hc.armed⟩, hk.unconfirmed, hk.confirmed⟩
  | other f =>
    rw [AlarmConn.runOp]
    have hf : Ends SendFailure.Permitted (liftHandler (f c.conn.rest)) fun _ => True :=
      ends_liftHandler (.of_forall (fun _ => trivial) fun _ => trivial)
    have hq := hc.timed.queue
    exact (ends_liftSend hf).bind fun rest _ =>
      .ok ⟨⟨⟨⟨hq.tally, hq.dsr, hq.numbered, hq.sorted, hq.keyed⟩, hc.timed.lossTime,
        hc.timed.appData, hc.timed.rejected⟩, hc.armed⟩, hk.unconfirmed, hk.confirmed⟩

/-! ### The alarm -/

/-- The invariant between turns: a timer that is scheduled was armed for a loss time exactly
if there is one. -/
structure Consistent (c : AlarmConn σ) : Prop where
  timed : c.Timed fun _ => False
  keyed : c.Keyed
  armed : c.lossTimeoutScheduled = true →
    (c.currentAlarmMethod = .earlyRetransmitOrReordering ↔ c.earliestLossTimer.1 ≠ none)

theorem Consistent.turning (hc : c.Consistent) : c.Turning := by
  refine ⟨hc.timed, fun hsome hscheduled hmethod => ?_⟩
  have hearly := (hc.armed hscheduled).mpr hsome
  rw [hmethod] at hearly
  cases hearly

/-- The timer is not scheduled. -/
theorem Timed.consistent (ht : c.Timed fun _ => False) (hk : c.Keyed)
    (hscheduled : c.lossTimeoutScheduled = false) : c.Consistent := by
  refine ⟨ht, hk, fun hs => ?_⟩
  rw [hscheduled] at hs
  cases hs

/-- What the end of a turn changes is not part of the other invariants. -/
theorem Timed.withAlarm (ht : c.Timed fun _ => False) (currentAlarmMethod : AlarmMethod)
    (alarmPending lossTimeoutScheduled : Bool) :
    Timed (fun _ => False) { c with currentAlarmMethod, alarmPending, lossTimeoutScheduled } :=
  ⟨ht.queue, ht.lossTime, ht.appData, ht.rejected⟩

theorem Keyed.withAlarm (hk : c.Keyed) (currentAlarmMethod : AlarmMethod)
    (alarmPending lossTimeoutScheduled : Bool) :
    Keyed { c with currentAlarmMethod, alarmPending, lossTimeoutScheduled } :=
  ⟨hk.unconfirmed, hk.confirmed⟩

theorem chosenMethod_iff {first : Option Nat} :
    (if first.isSome then AlarmMethod.earlyRetransmitOrReordering else .pto) =
      .earlyRetransmitOrReordering ↔ first ≠ none := by
  cases first with
  | none => simp
  | some time => simp

theorem Turning.setLossDetectionAlarm (hc : c.Turning) (hk : c.Keyed) (h : Handlers σ ε)
    (hasDataToWrite : Bool) :
    Ends AlarmFailure.Permitted
      (c.setLossDetectionAlarm hasDataToWrite : Except (AlarmFailure ε) (AlarmConn σ))
      Consistent := by
  unfold AlarmConn.setLossDetectionAlarm
  refine (ends_liftSend (hc.timed.queue.numOutstanding h)).bind fun total _ => ?_
  refine Ends.ite (fun _ => ?_) fun _ => ?_
  · exact .ok (Timed.consistent (hc.timed.withAlarm _ _ _) (hk.withAlarm _ _ _) rfl)
  by_cases hinvalid :
      c.currentAlarmMethod = .earlyRetransmitOrReordering ∧ c.earliestLossTimer.1 = none
  · -- the timer was armed for a loss time that is gone
    simp only [if_pos hinvalid]
    refine Ends.ite (fun _ => ?_) fun _ => ?_
    · exact .ok (Timed.consistent (hc.timed.withAlarm _ _ _) (hk.withAlarm _ _ _) rfl)
    · exact .ok ⟨hc.timed.withAlarm _ _ _, hk.withAlarm _ _ _, fun _ => chosenMethod_iff⟩
  · simp only [if_neg hinvalid]
    refine Ends.ite (fun hpending => .ok ⟨hc.timed, hk, fun hscheduled => ?_⟩) fun _ => ?_
    · constructor
      · intro hearly hnone
        exact hinvalid ⟨hearly, hnone⟩
      · intro hsome
        cases hmethod : c.currentAlarmMethod with
        | earlyRetransmitOrReordering => rfl
        | pto => exact absurd (hc.armed hsome hscheduled hmethod) hpending
    · exact .ok ⟨hc.timed.withAlarm _ _ _, hk.withAlarm _ _ _, fun _ => chosenMethod_iff⟩

/-- The timer was armed for a loss time and there is one. -/
theorem Timed.onLossTimeAlarm (ht : c.Timed fun _ => False)
    (hsome : c.earliestLossTimer.1 ≠ none) (now : Nat) :
    Ends AlarmFailure.Permitted (onLossTimeAlarm env now c)
      (fun c' => c'.Timed (fun _ => False) ∧ c.Follows c') := by
  unfold AlarmConn.onLossTimeAlarm
  rw [if_neg hsome]
  obtain ⟨time, htime⟩ := Option.ne_none_iff_exists'.mp hsome
  have hlossTime : (c.lossTimes c.earliestLossTimer.2).isSome = true := by
    have hspace := earliestTimeAndSpace_some htime
    exact Option.isSome_iff_exists.mpr ⟨time, hspace⟩
  obtain ⟨hstate, -⟩ := (ht.lossTime _ hlossTime).resolve_left id
  refine (ends_liftSend (getAckState_ends (.inr hstate))).bind fun a _ => ?_
  have hoff : c.Timed (· = c.earliestLossTimer.2) :=
    ⟨ht.queue, fun space hspace => .inr ((ht.lossTime space hspace).resolve_left id), ht.appData,
      ht.rejected⟩
  refine (hoff.detectLossPackets env.handlers _ now [] (fun happ => ?_) hstate).imp
    fun c' hc' => ⟨hc'.1, hc'.2.1⟩
  rw [happ] at hlossTime
  exact ht.appData hlossTime

/-- A probe timeout finds no loss time, so 0-RTT packets may be given up. -/
theorem Turning.onPTOAlarm (hc : c.Turning) (hnone : c.earliestLossTimer.1 = none) :
    Ends AlarmFailure.Permitted (onPTOAlarm env c)
      (fun c' => c'.Timed (fun _ => False) ∧ c.Follows c') := by
  have ht := hc.timed
  unfold AlarmConn.onPTOAlarm
  refine Ends.ite (fun _ => .error trivial) fun _ => ?_
  refine Ends.ite (fun hzero => ?_) fun _ => ?_
  · have happ : c.lossTimes .appData = none := by
      have hcipher : c.keys.oneRttWriteCipher = true := hzero.2.2
      rw [AlarmConn.earliestLossTimer, hcipher] at hnone
      exact appData_none_of_earliest hnone
    refine Ends.bind (hc.markZeroRttPacketsLost env.handlers (.inl happ)) fun conn hconn => ?_
    obtain ⟨⟨ht', -⟩, hf, -⟩ := hconn
    exact .ok ⟨⟨ht'.queue, ht'.lossTime, ht'.appData, ht'.rejected⟩,
      ⟨hf.states, hf.keys, hf.method, hf.scheduled⟩⟩
  · exact .ok ⟨⟨ht.queue, ht.lossTime, ht.appData, ht.rejected⟩, ⟨fun _ => rfl, rfl, rfl, rfl⟩⟩

/-- The timer fires. -/
theorem Consistent.onLossDetectionAlarm (hc : c.Consistent)
    (hscheduled : c.lossTimeoutScheduled = true) (now : Nat) :
    Ends AlarmFailure.Permitted
      (onLossDetectionAlarm env now { c with lossTimeoutScheduled := false }) Consistent := by
  have ht := hc.timed.withAlarm c.currentAlarmMethod c.alarmPending false
  have hk := hc.keyed.withAlarm c.currentAlarmMethod c.alarmPending false
  have hfire : Ends AlarmFailure.Permitted
      (if c.currentAlarmMethod = .earlyRetransmitOrReordering then
        AlarmConn.onLossTimeAlarm env now { c with lossTimeoutScheduled := false }
      else AlarmConn.onPTOAlarm env { c with lossTimeoutScheduled := false })
      (fun c' => c'.Timed (fun _ => False) ∧
        AlarmConn.Follows { c with lossTimeoutScheduled := false } c') := by
    refine Ends.ite (fun hearly => ?_) fun hpto => ?_
    · exact ht.onLossTimeAlarm ((hc.armed hscheduled).mp hearly) now
    · have hturning : Turning { c with lossTimeoutScheduled := false } := ⟨ht, fun _ => nofun⟩
      refine hturning.onPTOAlarm ?_
      by_contra hsome
      exact hpto ((hc.armed hscheduled).mpr hsome)
  unfold AlarmConn.onLossDetectionAlarm
  refine Ends.ite (fun _ => .ok (Timed.consistent ht hk rfl)) fun _ => ?_
  refine hfire.bind fun c₁ hc₁ => ?_
  refine (hc₁.1.alarmIfOutstanding env.handlers).imp fun c₂ hc₂ => ?_
  have hf := hc₁.2.trans hc₂.2.1
  exact Timed.consistent hc₂.1 (hk.follows hf) hf.scheduled

/-- One event. -/
theorem Consistent.step (hc : c.Consistent) (e : AlarmEvent σ ε) :
    Ends AlarmFailure.Permitted (c.step env e) Consistent := by
  cases e with
  | turn ops hasDataToWrite =>
    rw [AlarmConn.step]
    have hops : Ends AlarmFailure.Permitted (ops.foldlM (AlarmConn.runOp env) c)
        (fun c' => c'.Turning ∧ c'.Keyed) :=
      Ends.foldlM (I := fun (c' : AlarmConn σ) _ => c'.Turning ∧ c'.Keyed)
        (fun c' op _ hc' => hc'.1.runOp hc'.2 op) ⟨hc.turning, hc.keyed⟩
    exact hops.bind fun c' hc' => hc'.1.setLossDetectionAlarm hc'.2 env.handlers hasDataToWrite
  | lossTimeoutExpired now =>
    rw [AlarmConn.step]
    exact Ends.ite (fun hscheduled => hc.onLossDetectionAlarm hscheduled now) fun _ => .ok hc
  | happyEyeballs =>
    rw [AlarmConn.step]
    refine Ends.ite (fun _ => .ok hc) fun hcipher => ?_
    have hnone : c.lossTimes .appData = none := by
      by_contra hsome
      exact hcipher (hc.timed.appData (Option.isSome_iff_ne_none.mpr hsome))
    refine (hc.turning.markZeroRttPacketsLost env.handlers (.inl hnone)).bind fun conn hconn => ?_
    exact .ok ⟨hconn.1.timed, hc.keyed.follows hconn.2.1, hc.armed⟩

theorem Consistent.start (env : AlarmEnv σ ε) (initial handshake appData : AckState)
    (lossState : LossState) (transportSettings : TransportSettings) (rest : σ) :
    Consistent (.start initial handshake appData lossState transportSettings rest) := by
  have hqueue : QueueInv (AlarmConn.start initial handshake appData lossState transportSettings
      rest).conn :=
    Contract.Inv.queueInv (C := anyHandlers env.handlers) (.new rfl trivial)
  refine ⟨⟨hqueue, nofun, nofun, nofun⟩, ⟨fun _ space => ?_, nofun⟩, nofun⟩
  cases space <;> rfl

theorem Consistent.run (hc : c.Consistent) (env : AlarmEnv σ ε) (events : List (AlarmEvent σ ε)) :
    Ends AlarmFailure.Permitted (events.foldlM (AlarmConn.step env) c) Consistent :=
  Ends.foldlM (I := fun (c : AlarmConn σ) _ => c.Consistent) (fun _ e _ hc => hc.step e) hc

end AlarmConn

/-- Whatever the handlers do, in every run of a connection:

* in every state, also within a turn, a space with a loss time has its ack state and a packet
  that is not declared lost;
* a timer that is scheduled for a loss time finds one;
* and neither the check for it nor the one in `getAckState` fails. -/
theorem lossAlarm_consistent (env : AlarmEnv σ ε) (initial handshake appData : AckState)
    (lossState : LossState) (transportSettings : TransportSettings) (rest : σ)
    (events : List (AlarmEvent σ ε)) (ops : List (AlarmOp σ ε)) :
    (∀ c, (events.foldlM (AlarmConn.step env)
          (.start initial handshake appData lossState transportSettings rest) >>= fun c =>
        ops.foldlM (AlarmConn.runOp env) c) = .ok c →
      ∀ space, c.lossTimes space ≠ none → c.conn.ackStates.get space ≠ none ∧
        ∃ p ∈ c.conn.outstandings.packets, isOutstanding space p = true) ∧
    (∀ c, events.foldlM (AlarmConn.step env)
          (.start initial handshake appData lossState transportSettings rest) = .ok c →
      c.lossTimeoutScheduled = true → c.currentAlarmMethod = .earlyRetransmitOrReordering →
        c.earliestLossTimer.1 ≠ none) ∧
    events.foldlM (AlarmConn.step env)
        (.start initial handshake appData lossState transportSettings rest) ≠
      .error .lossTimer ∧
    events.foldlM (AlarmConn.step env)
        (.start initial handshake appData lossState transportSettings rest) ≠
      .error (.send (.check .ackState)) := by
  have hrun := (AlarmConn.Consistent.start env initial handshake appData lossState
    transportSettings rest).run env events
  refine ⟨fun c hc space hspace => ?_, fun c hc hscheduled => ((hrun.of_ok hc).armed hscheduled).mp,
    fun hfail => ?_, fun hfail => ?_⟩
  · have hops : Ends AlarmFailure.Permitted (events.foldlM (AlarmConn.step env)
          (.start initial handshake appData lossState transportSettings rest) >>= fun c =>
        ops.foldlM (AlarmConn.runOp env) c) (fun c' => c'.Turning ∧ c'.Keyed) :=
      hrun.bind fun c₁ hc₁ => Ends.foldlM (I := fun (c' : AlarmConn σ) _ => c'.Turning ∧ c'.Keyed)
        (fun c' op _ hc' => hc'.1.runOp hc'.2 op) ⟨hc₁.turning, hc₁.keyed⟩
    obtain ⟨hturning, -⟩ := hops.of_ok hc
    obtain ⟨hstate, hlives⟩ := (hturning.timed.lossTime space
      (Option.isSome_iff_ne_none.mpr hspace)).resolve_left id
    exact ⟨Option.isSome_iff_ne_none.mp hstate, hlives⟩
  · exact hrun.of_error hfail
  · exact nomatch hrun.of_error hfail

/-- Handlers that do nothing. -/
def idleAlarm : AlarmEnv Unit Empty where
  handlers := idle
  implicitHandlers := idle
  cryptoDone _ rest := .ok rest
  maxNumPTOs := 7
  earlyRetransmit0Rtt := true

/-- The ack of the second Initial packet shows that the first one may be lost. -/
def reordering : List (AlarmEvent Unit Empty) := [
  .turn [.send ⟨.initial, [.writeCrypto 0 10]⟩ 0, .send ⟨.initial, [.writeCrypto 10 10]⟩ 1000]
    false,
  .turn [.ack .initial (ackOf 1) ⟨9000000, 9000000⟩] false ]

theorem lossAlarm_consistent_reordering :
    ∃ c, reordering.foldlM (AlarmConn.step idleAlarm)
        (.start ⟨0, none⟩ ⟨0, none⟩ ⟨0, none⟩ ⟨0, 0, 0, 0, 0, 3⟩
          ⟨100000, 9, 8, false, false, false⟩ ()) = .ok c ∧
      c.lossTimeoutScheduled = true ∧
      c.currentAlarmMethod = .earlyRetransmitOrReordering ∧ c.earliestLossTimer.1 ≠ none := by
  have hrun : ∃ c, reordering.foldlM (AlarmConn.step idleAlarm)
      (.start ⟨0, none⟩ ⟨0, none⟩ ⟨0, none⟩ ⟨0, 0, 0, 0, 0, 3⟩
        ⟨100000, 9, 8, false, false, false⟩ ()) = .ok c ∧
      c.lossTimeoutScheduled = true ∧ c.currentAlarmMethod = .earlyRetransmitOrReordering :=
    ⟨_, rfl, rfl, rfl⟩
  obtain ⟨c, hc, hscheduled, hmethod⟩ := hrun
  exact ⟨c, hc, hscheduled, hmethod, (lossAlarm_consistent idleAlarm ⟨0, none⟩ ⟨0, none⟩ ⟨0, none⟩
    ⟨0, 0, 0, 0, 0, 3⟩ ⟨100000, 9, 8, false, false, false⟩ () reordering []).2.1 c hc hscheduled
      hmethod⟩

end MasqueQuic
