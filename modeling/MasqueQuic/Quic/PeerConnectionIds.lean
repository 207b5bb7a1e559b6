/-
The connection ids of the peer.

An endpoint stores the ids that the peer offers in `NEW_CONNECTION_ID` frames and uses one of
them. A `PATH_CHALLENGE` makes it retire that one and switch to another. `retired` records the
entries whose retirement has been queued, and is read by nothing. A client keeps the id in use
in `serverConnectionId`, a server in `clientConnectionId`; nothing else depends on the side.

A frame whose id would spoil what is stored has to be refused. The function compares ids with the
stored ones only and sequence numbers not at all, and ignores the ids for which there is no room.
-/

import Mathlib.Data.List.Nodup
import MasqueQuic.Lib.Run
import MasqueQuic.Quic.DuplicatePackets

namespace MasqueQuic

variable {ρ : Type}

inductive PeerIdEvent where
  | newConnectionId (frame : NewConnectionIdFrame)
  | pathChallenge (pathData : Nat)
  | rotate

structure PeerIds (ρ : Type) where
  conn : ServerConn ρ
  retired : List ConnectionIdData

def ServerConn.setClientConnectionId (c : ServerConn ρ) (connId : ConnectionId) : ServerConn ρ :=
  { c with
    clientConnectionId := some connId
    peerConnectionIds := c.peerConnectionIds ++ [⟨connId, 0, none⟩] }

/-- The entry that `retireAndSwitchPeerConnectionIds` retires. -/
def ServerConn.currentConnId (c : ServerConn ρ) : Option ConnectionIdData :=
  c.clientConnectionId.bind fun mainPeerId => c.peerConnectionIds.find? (·.connId == mainPeerId)

/-- Whether a `NEW_CONNECTION_ID` frame passes the checks that come before the one for room. -/
def ServerConn.admits (c : ServerConn ρ) (frame : NewConnectionIdFrame) : Bool :=
  decide (frame.retirePriorTo ≤ frame.sequenceNumber) &&
    c.peerConnectionIds.all (·.connId != frame.connectionId) &&
    c.clientConnectionId.any (·.length != 0)

namespace PeerIds

def step (s : PeerIds ρ) : PeerIdEvent → Except QuicException (PeerIds ρ)
  | .newConnectionId frame =>
      match s.conn.onNewConnectionId frame with
      | .throw e _ => .error e
      | flow => .ok { s with conn := flow.state }
  | .pathChallenge pathData =>
      match s.conn.onPathChallenge pathData with
      | .throw e _ => .error e
      | flow => .ok ⟨flow.state, s.conn.currentConnId.toList ++ s.retired⟩
  | .rotate =>
      match s.conn.retireAndSwitchPeerConnectionIds with
      | .error e => .error e
      | .ok none => .ok s
      | .ok (some conn) => .ok ⟨conn, s.conn.currentConnId.toList ++ s.retired⟩

def start (conn : ServerConn ρ) (connId : ConnectionId) : PeerIds ρ :=
  ⟨{ conn with peerConnectionIds := [] }.setClientConnectionId connId, []⟩

/-- An id is added to those stored. -/
def stored (s : PeerIds ρ) (frame : NewConnectionIdFrame) : PeerIds ρ :=
  { s with conn := { s.conn with peerConnectionIds := s.conn.peerConnectionIds ++
      [⟨frame.connectionId, frame.sequenceNumber, some frame.token⟩] } }

/-- What should hold of the stored ids. -/
structure Sound (s : PeerIds ρ) : Prop where
  connIds : (s.conn.peerConnectionIds.map (·.connId)).Nodup
  bounded : s.conn.peerConnectionIds.length ≤ s.conn.selfActiveConnectionIdLimit + 1
  inUse : ∃ d ∈ s.conn.peerConnectionIds, s.conn.clientConnectionId = some d.connId
  sequenceNumbers : (s.conn.peerConnectionIds.map (·.sequenceNumber)).Nodup
  retired : ∀ d ∈ s.conn.peerConnectionIds, ∀ r ∈ s.retired, d.connId ≠ r.connId

/-- The frame is a copy of one whose id is stored. -/
def IsCopy (s : PeerIds ρ) (frame : NewConnectionIdFrame) : Prop :=
  ∃ d ∈ s.conn.peerConnectionIds,
    d.connId = frame.connectionId ∧ d.sequenceNumber = frame.sequenceNumber

/-- A frame that is no copy, and with whose id the stored ids would not be as they should be, is
refused with `PROTOCOL_VIOLATION`. -/
def Refuses (s : PeerIds ρ) : PeerIdEvent → Prop
  | .newConnectionId frame => ¬ s.IsCopy frame → ¬ (s.stored frame).Sound →
      ∃ reason, s.step (.newConnectionId frame) = .error (.transport reason .protocolViolation)
  | _ => True

/-- A frame that passes the checks finds room, and reuses neither the sequence number of a stored
id nor an id that has been retired. -/
def Fresh (s : PeerIds ρ) : PeerIdEvent → Prop
  | .newConnectionId frame => s.conn.admits frame = true →
      s.conn.peerConnectionIds.length ≠ s.conn.selfActiveConnectionIdLimit + 1 ∧
        (∀ d ∈ s.conn.peerConnectionIds, d.sequenceNumber ≠ frame.sequenceNumber) ∧
        ∀ r ∈ s.retired, r.connId ≠ frame.connectionId
  | _ => True

variable {s s' : PeerIds ρ} {conn : ServerConn ρ} {e : PeerIdEvent}

/-! ### What a step does -/

theorem stored_ids (s : PeerIds ρ) (frame : NewConnectionIdFrame) :
    (s.stored frame).conn.peerConnectionIds = s.conn.peerConnectionIds ++
      [⟨frame.connectionId, frame.sequenceNumber, some frame.token⟩] := rfl

theorem admits_iff {c : ServerConn ρ} {frame : NewConnectionIdFrame} :
    c.admits frame = true ↔ frame.retirePriorTo ≤ frame.sequenceNumber ∧
      (∀ d ∈ c.peerConnectionIds, d.connId ≠ frame.connectionId) ∧
      c.clientConnectionId.any (·.length != 0) = true := by
  simp only [ServerConn.admits, Bool.and_eq_true, decide_eq_true_eq, List.all_eq_true, bne_iff_ne,
    and_assoc]

theorem not_all_zero_iff {connId : Option ConnectionId} :
    ¬ connId.all (·.length == 0) = true ↔ connId.any (·.length != 0) = true := by
  cases connId <;> simp

/-- A frame that passes the checks is stored, or ignored when there is no room. -/
theorem step_admits {frame : NewConnectionIdFrame} (hadmits : s.conn.admits frame = true) :
    s.step (.newConnectionId frame) =
      .ok (if s.conn.peerConnectionIds.length = s.conn.selfActiveConnectionIdLimit + 1 then s
        else s.stored frame) := by
  obtain ⟨hle, hnew, hlength⟩ := admits_iff.mp hadmits
  have hnone : s.conn.peerConnectionIds.find? (·.connId == frame.connectionId) = none := by
    rw [List.find?_eq_none]
    intro d hd hfound
    exact hnew d hd (beq_iff_eq.mp hfound)
  simp only [step, ServerConn.onNewConnectionId]
  rw [if_neg (by omega), hnone]
  dsimp only
  rw [if_neg (not_all_zero_iff.mpr hlength)]
  by_cases hfull : s.conn.peerConnectionIds.length = s.conn.selfActiveConnectionIdLimit + 1
  · rw [if_pos hfull, if_pos hfull]
    rfl
  · rw [if_neg hfull, if_neg hfull]
    rfl

/-- The id in use is retired and another one takes its place. -/
structure Rotates (s s' : PeerIds ρ) (mainPeerId : ConnectionId) (replacement : ConnectionIdData) :
    Prop where
  current : s.conn.clientConnectionId = some mainPeerId
  stored : replacement ∈ s.conn.peerConnectionIds
  other : replacement.connId ≠ mainPeerId
  switched : s'.conn.clientConnectionId = some replacement.connId
  erased : s'.conn.peerConnectionIds =
    s.conn.peerConnectionIds.eraseP (·.connId == mainPeerId)
  limit : s'.conn.selfActiveConnectionIdLimit = s.conn.selfActiveConnectionIdLimit
  retired : s'.retired = s.conn.currentConnId.toList ++ s.retired

/-- A frame that does not pass the checks is refused, or is a copy and does nothing. -/
theorem step_newConnectionId (frame : NewConnectionIdFrame) :
    s.conn.admits frame = true ∨
      (∃ reason, s.step (.newConnectionId frame) =
        .error (.transport reason .protocolViolation)) ∨
      s.step (.newConnectionId frame) = .ok s ∧ s.IsCopy frame := by
  simp only [step, ServerConn.onNewConnectionId]
  by_cases hprior : frame.retirePriorTo > frame.sequenceNumber
  · rw [if_pos hprior]
    exact .inr (.inl ⟨_, rfl⟩)
  · rw [if_neg hprior]
    cases hfind : s.conn.peerConnectionIds.find? (·.connId == frame.connectionId) with
    | some existing =>
      dsimp only
      by_cases hnum : existing.sequenceNumber = frame.sequenceNumber
      · rw [if_neg (not_not.mpr hnum)]
        have hid : existing.connId = frame.connectionId := by simpa using List.find?_some hfind
        exact .inr (.inr ⟨rfl, existing, List.mem_of_find?_eq_some hfind, hid, hnum⟩)
      · rw [if_pos hnum]
        exact .inr (.inl ⟨_, rfl⟩)
    | none =>
      dsimp only
      by_cases hzero : s.conn.clientConnectionId.all (·.length == 0) = true
      · rw [if_pos hzero]
        exact .inr (.inl ⟨_, rfl⟩)
      · refine .inl (admits_iff.mpr ⟨by omega, fun d hd heq => ?_, not_all_zero_iff.mp hzero⟩)
        exact List.find?_eq_none.mp hfind d hd (beq_iff_eq.mpr heq)

theorem rotates_of_retire {c : ServerConn ρ} {retired : List ConnectionIdData}
    (hretire : s.conn.retireAndSwitchPeerConnectionIds = .ok (some conn))
    (hmain : c.clientConnectionId = conn.clientConnectionId)
    (hstored : c.peerConnectionIds = conn.peerConnectionIds)
    (hlimit : c.selfActiveConnectionIdLimit = conn.selfActiveConnectionIdLimit)
    (hretired : retired = s.conn.currentConnId.toList ++ s.retired) :
    ∃ mainPeerId replacement, Rotates s ⟨c, retired⟩ mainPeerId replacement := by
  unfold ServerConn.retireAndSwitchPeerConnectionIds at hretire
  cases hcurrent : s.conn.clientConnectionId with
  | none =>
    rw [hcurrent] at hretire
    cases hretire
  | some mainPeerId =>
    rw [hcurrent] at hretire
    dsimp only at hretire
    cases hfind : s.conn.replacementConnId mainPeerId with
    | none =>
      rw [hfind] at hretire
      cases hretire
    | some replacement =>
      rw [hfind] at hretire
      cases hretire
      refine ⟨mainPeerId, replacement, hcurrent, List.mem_of_find?_eq_some hfind, ?_, hmain,
        hstored, hlimit, hretired⟩
      simpa using List.find?_some hfind

theorem step_cases (hstep : s.step e = .ok s') :
    s' = s ∨ (∃ frame, e = .newConnectionId frame ∧ s.conn.admits frame = true ∧
        s' = s.stored frame) ∨
      ∃ mainPeerId replacement, Rotates s s' mainPeerId replacement := by
  cases e with
  | newConnectionId frame =>
    rcases s.step_newConnectionId frame with hadmits | ⟨reason, herror⟩ | ⟨hsame, -⟩
    · rw [step_admits hadmits] at hstep
      cases hstep
      split
      · exact .inl rfl
      · exact .inr (.inl ⟨frame, rfl, hadmits, rfl⟩)
    · rw [herror] at hstep
      cases hstep
    · rw [hsame] at hstep
      cases hstep
      exact .inl rfl
  | pathChallenge pathData =>
    simp only [step, ServerConn.onPathChallenge] at hstep
    cases hretire : s.conn.retireAndSwitchPeerConnectionIds with
    | error e =>
      rw [hretire] at hstep
      cases hstep
    | ok switched =>
      rw [hretire] at hstep
      cases switched with
      | none => cases hstep
      | some conn =>
        cases hstep
        exact .inr (.inr (rotates_of_retire hretire rfl rfl rfl rfl))
  | rotate =>
    simp only [step] at hstep
    cases hretire : s.conn.retireAndSwitchPeerConnectionIds with
    | error e =>
      rw [hretire] at hstep
      cases hstep
    | ok switched =>
      rw [hretire] at hstep
      cases switched with
      | none =>
        cases hstep
        exact .inl rfl
      | some conn =>
        cases hstep
        exact .inr (.inr (rotates_of_retire hretire rfl rfl rfl rfl))

/-! ### Sound states -/

/-- The id of a frame that passes the checks can be stored exactly when there is room for it, and
its sequence number and the id itself have not been used before. -/
theorem stored_sound_iff {frame : NewConnectionIdFrame} (hs : s.Sound)
    (hadmits : s.conn.admits frame = true) :
    (s.stored frame).Sound ↔
      s.conn.peerConnectionIds.length ≠ s.conn.selfActiveConnectionIdLimit + 1 ∧
        (∀ d ∈ s.conn.peerConnectionIds, d.sequenceNumber ≠ frame.sequenceNumber) ∧
        ∀ r ∈ s.retired, r.connId ≠ frame.connectionId := by
  obtain ⟨-, hnew, -⟩ := admits_iff.mp hadmits
  have hle := hs.bounded
  constructor
  · intro hstored
    have hroom := hstored.bounded
    have hnums := hstored.sequenceNumbers
    rw [stored_ids, List.length_append, List.length_singleton] at hroom
    rw [stored_ids, List.map_append, List.nodup_append] at hnums
    refine ⟨?_, fun d hd => ?_, fun r hr heq => ?_⟩
    · change _ ≤ s.conn.selfActiveConnectionIdLimit + 1 at hroom
      omega
    · exact hnums.2.2 _ (List.mem_map_of_mem hd) _ List.mem_cons_self
    · exact hstored.retired _ (List.mem_append_right _ List.mem_cons_self) r hr heq.symm
  · rintro ⟨hroom, hnums, hids⟩
    obtain ⟨d, hd, hmain⟩ := hs.inUse
    refine ⟨?_, ?_, ⟨d, List.mem_append_left _ hd, hmain⟩, ?_, fun d hd r hr => ?_⟩
    · rw [stored_ids, List.map_append, List.nodup_append]
      refine ⟨hs.connIds, List.nodup_singleton _, fun a ha b hb heq => ?_⟩
      obtain ⟨d, hd, rfl⟩ := List.mem_map.mp ha
      exact hnew d hd (heq.trans (List.mem_singleton.mp hb))
    · rw [stored_ids, List.length_append, List.length_singleton]
      change _ ≤ s.conn.selfActiveConnectionIdLimit + 1
      omega
    · rw [stored_ids, List.map_append, List.nodup_append]
      refine ⟨hs.sequenceNumbers, List.nodup_singleton _, fun a ha b hb heq => ?_⟩
      obtain ⟨d, hd, rfl⟩ := List.mem_map.mp ha
      exact hnums d hd (heq.trans (List.mem_singleton.mp hb))
    · rcases List.mem_append.mp hd with hd | hd
      · exact hs.retired d hd r hr
      · rw [List.mem_singleton.mp hd]
        exact (hids r hr).symm

section Rotates

variable {mainPeerId : ConnectionId} {replacement : ConnectionIdData}

theorem Rotates.sublist (hr : Rotates s s' mainPeerId replacement) :
    s'.conn.peerConnectionIds.Sublist s.conn.peerConnectionIds := by
  rw [hr.erased]
  exact List.eraseP_sublist

/-- What is retired is no longer stored. -/
theorem Rotates.not_stored (hr : Rotates s s' mainPeerId replacement) (hs : s.Sound) :
    ∀ d ∈ s'.conn.peerConnectionIds, d.connId ≠ mainPeerId := by
  intro d hd heq
  obtain ⟨c, hc, hmain⟩ := hs.inUse
  rw [hr.current, Option.some.injEq] at hmain
  obtain ⟨a, before, after, -, ha, hsplit, herase⟩ := List.exists_of_eraseP
    (p := fun x : ConnectionIdData => x.connId == mainPeerId) hc (beq_iff_eq.mpr hmain.symm)
  have hids := hs.connIds
  rw [hr.erased, herase] at hd
  rw [hsplit, List.map_append, List.map_cons, List.nodup_middle, List.nodup_cons] at hids
  refine hids.1 ?_
  have hsame : a.connId = d.connId := (beq_iff_eq.mp ha).trans heq.symm
  rw [hsame, ← List.map_append]
  exact List.mem_map_of_mem hd

theorem Rotates.sound (hr : Rotates s s' mainPeerId replacement) (hs : s.Sound) : s'.Sound := by
  refine ⟨hs.connIds.sublist (hr.sublist.map _), ?_, ⟨replacement, ?_, hr.switched⟩,
    hs.sequenceNumbers.sublist (hr.sublist.map _), fun d hd r hmem => ?_⟩
  · rw [hr.limit]
    exact hr.sublist.length_le.trans hs.bounded
  · rw [hr.erased, List.mem_eraseP_of_neg]
    · exact hr.stored
    · simpa using hr.other
  · rw [hr.retired, List.mem_append] at hmem
    rcases hmem with hcurrent | hold
    · have hfound : s.conn.currentConnId = some r := Option.mem_toList.mp hcurrent
      rw [ServerConn.currentConnId, hr.current] at hfound
      have hmain : r.connId = mainPeerId := by simpa using List.find?_some hfound
      rw [hmain]
      exact hr.not_stored hs d hd
    · exact hs.retired d (hr.sublist.subset hd) r hold

end Rotates

theorem step_sound (hs : s.Sound) (hfresh : s.Fresh e) (hstep : s.step e = .ok s') : s'.Sound := by
  rcases step_cases hstep with rfl | ⟨frame, rfl, hadmits, rfl⟩ | ⟨_, _, hr⟩
  · exact hs
  · exact (stored_sound_iff hs hadmits).mpr (hfresh hadmits)
  · exact hr.sound hs

/-- A frame that passes the checks is never refused, so it must be one that can be stored. -/
theorem fresh_iff_refuses (hs : s.Sound) : s.Fresh e ↔ s.Refuses e := by
  cases e with
  | newConnectionId frame =>
    rcases s.step_newConnectionId frame with hadmits | ⟨reason, herror⟩ | ⟨-, hcopy⟩
    · have hnew : ¬ s.IsCopy frame := fun ⟨d, hd, heq, _⟩ =>
        (admits_iff.mp hadmits).2.1 d hd heq
      have htaken : ¬ ∃ reason, s.step (.newConnectionId frame) =
          .error (.transport reason .protocolViolation) := by
        rintro ⟨reason, herror⟩
        rw [step_admits hadmits] at herror
        cases herror
      rw [Fresh, Refuses, ← stored_sound_iff hs hadmits]
      exact ⟨fun h _ hnot => absurd (h hadmits) hnot,
        fun h _ => Classical.not_not.mp fun hnot => htaken (h hnew hnot)⟩
    · refine iff_of_true (fun hadmits => ?_) fun _ _ => ⟨reason, herror⟩
      rw [step_admits hadmits] at herror
      cases herror
    · refine iff_of_true (fun hadmits => ?_) fun hnew => absurd hcopy hnew
      obtain ⟨d, hd, heq, -⟩ := hcopy
      exact absurd heq ((admits_iff.mp hadmits).2.1 d hd)
  | pathChallenge pathData => exact Iff.rfl
  | rotate => exact Iff.rfl

theorem start_sound (conn : ServerConn ρ) (connId : ConnectionId) : (start conn connId).Sound where
  connIds := List.nodup_singleton _
  bounded := Nat.le_add_left 1 _
  inUse := ⟨⟨connId, 0, none⟩, List.mem_cons_self, rfl⟩
  sequenceNumbers := List.nodup_singleton _
  retired _ _ := List.forall_mem_nil _

end PeerIds

/-- In every run the stored ids are as they should be in all states, and every frame whose id would
spoil them is refused, exactly when no frame that passes the checks finds the store full, reuses
the sequence number of a stored id or brings an id that has been retired. -/
theorem peerConnectionIds_iff (conn : ServerConn ρ) (connId : ConnectionId)
    (events : List PeerIdEvent) :
    ((∀ fs s, fs <+: events → fs.foldlM PeerIds.step (.start conn connId) = .ok s → s.Sound) ∧
      ∀ fs e s, fs ++ [e] <+: events → fs.foldlM PeerIds.step (.start conn connId) = .ok s →
        s.Refuses e) ↔
      Meets PeerIds.step PeerIds.Fresh (.start conn connId) events := by
  have hstart := PeerIds.start_sound conn connId
  have hstep : ∀ (s : PeerIds ρ) e s', s.Sound → s.Fresh e → s.step e = .ok s' → s'.Sound :=
    fun s e s' hs hfresh hstep => PeerIds.step_sound hs hfresh hstep
  have hrefuses : Meets PeerIds.step PeerIds.Fresh (.start conn connId) events ↔
      Meets PeerIds.step PeerIds.Refuses (.start conn connId) events :=
    meets_congr hstep (fun s e hs => PeerIds.fresh_iff_refuses hs) hstart
  rw [← meets_iff_forall_prefix, ← hrefuses]
  refine ⟨fun h => h.2, fun hmeets => ⟨fun fs s hfs hrun => ?_, hmeets⟩⟩
  exact run_invariant_of_meets hstep hstart (hmeets.of_prefix hfs) hrun

/-- A connection that has received nothing. -/
def freshConn : ServerConn Unit where
  datagramState := ⟨0, 0, []⟩
  recvDropOldDataFirst := false
  knobs := []
  frames := []
  clientConnectionId := none
  peerConnectionIds := []
  selfActiveConnectionIdLimit := 2
  acks := []
  duplicatedPackets := 0
  rest := ()
  log := []

/-- The peer offers a second id and challenges the path, so that its first id is retired. A copy
of the frame that offered the first id brings it back. -/
theorem peerConnectionIds_fails :
    ∃ s, [.newConnectionId ⟨1, 0, [2], []⟩, .pathChallenge 7,
        .newConnectionId ⟨0, 0, [1], []⟩].foldlM PeerIds.step (.start freshConn [1]) = .ok s ∧
      s.retired.map (·.connId) = [[1]] ∧ ¬ s.Sound := by
  refine ⟨_, rfl, rfl, fun hs => ?_⟩
  exact hs.retired ⟨[1], 0, some []⟩ (by decide) ⟨[1], 0, none⟩ (by decide) rfl

end MasqueQuic
