/-
Runs of a worker and its maps.

Every ID that a step takes is to be fresh (`ReadTakesFresh`, `CryptoTakesFresh`), and a transport that a
step unbinds is to be unbound cleanly. `routingTables_owned` is about the runs of such steps, and
`routingTables_leftover` shows two that are not.
-/

import MasqueQuic.Quic.RoutingTables

namespace MasqueQuic

namespace WorkerWorld

variable {α ι : Type} [DecidableEq α] [DecidableEq ι] {t : Nat} {w : WorkerWorld α ι}

/-! ### Reads and crypto events -/

omit [DecidableEq α] [DecidableEq ι] in
theorem Announced.of_keepsIds {w' : WorkerWorld α ι} (h : w.Announced t) (hkeeps : KeepsIds t w w') :
    w'.Announced t := by
  intro hopen hserver
  rw [hkeeps.serverConnectionId] at hserver
  exact hkeeps.notifiedRouting (h (fun hclosed => hopen (hkeeps.closed hclosed)) hserver)

omit [DecidableEq α] in
theorem announced_maybeNotifyRouting (hb : w.IsBound t) : (w.maybeNotifyRouting t).Announced t := by
  intro hopen hserver
  have hsame := (maybeNotifyRouting_keeps (t := t) w).2
  rw [hsame.closeState] at hopen
  have hr := (hb.bound hopen).1
  unfold maybeNotifyRouting at hserver ⊢
  split at hserver
  · next hnone => exact absurd hnone hserver
  · by_cases hnotified : (w.transport t).notifiedRouting = false
    · rw [if_pos ⟨hnotified, hr⟩, transport_onConnectionIdAvailable, transport_modify]
    · rw [if_neg (fun h => hnotified h.1)]
      exact (Bool.not_eq_false _).mp hnotified

theorem maybeNotifyFirstPeerPacket_keepsEntries (waitingForFirstPacket : Bool)
    (calls : List AppCall) (w : WorkerWorld α ι) :
    Ends (fun _ => True) (w.maybeNotifyFirstPeerPacket t waitingForFirstPacket calls) fun w' =>
      KeepsEntries t w w' ∧ KeepsIds t w w' := by
  unfold maybeNotifyFirstPeerPacket
  split
  · exact ((closingSteps_keepsEntries t).appCalls_ends trivial calls w).also
      ((closingSteps_keepsIds t).appCalls_ends trivial calls w)
  · exact .ok ⟨.refl t w, .refl t w⟩

theorem maybeNotifyHandshakeFinished_keepsEntries (calls : List AppCall) (w : WorkerWorld α ι) :
    Ends (fun _ => True) (w.maybeNotifyHandshakeFinished t calls) fun w' =>
      KeepsEntries t w w' ∧ KeepsIds t w w' := by
  have hentries := closingSteps_keepsEntries (α := α) (ι := ι) t
  have hids := closingSteps_keepsIds (α := α) (ι := ι) t
  unfold maybeNotifyHandshakeFinished
  split
  · have hcount : Ends (fun _ => True) (w.countHandshakeFinished t) fun w' =>
        KeepsEntries t w w' ∧ KeepsIds t w w' := by
      unfold countHandshakeFinished onHandshakeFinished
      split
      · dsimp only
        split
        · exact .ok ⟨hentries.count w _, hids.count w _⟩
        · exact .error trivial
      · exact .ok ⟨.refl t w, .refl t w⟩
    refine hcount.bind fun w₁ hw₁ => ?_
    split
    · refine ((hentries.appCalls_ends trivial calls w₁).also
        (hids.appCalls_ends trivial calls w₁)).bind fun w₂ hw₂ => Ends.ok ?_
      constructor
      · apply (hw₁.1.trans hw₂.1).trans
        exact .modify (.modify rfl rfl rfl rfl rfl) rfl rfl rfl id rfl rfl
      · apply (hw₁.2.trans hw₂.2).trans
        constructor
        all_goals rw [transport_modify]
        · exact id
        · exact id
    · exact .ok hw₁
  · exact .ok ⟨.refl t w, .refl t w⟩

theorem maybeNotifyTransportReady_keepsEntries (calls : List AppCall) (w : WorkerWorld α ι) :
    Ends (fun _ => True) (w.maybeNotifyTransportReady t calls) (KeepsEntries t w) := by
  unfold maybeNotifyTransportReady
  split
  · have hready : KeepsEntries t w (w.modify t fun transport =>
        { transport with transportReadyNotified := true }) :=
    .modify (.modify rfl rfl rfl rfl rfl) rfl rfl rfl id rfl rfl
    exact ((closingSteps_keepsEntries t).appCalls_ends trivial calls _).imp
      fun w' hw' => hready.trans hw'
  · exact .ok (.refl t w)

/-- The IDs that `maybeIssueConnectionIds` takes are fresh. -/
def MaybeIssuesFresh (t : Nat) (encoded : List ι) (w : WorkerWorld α ι) : Prop :=
  (w.transport t).issuesConnectionIds = true →
    IssuesFresh t ((w.transport t).maximumConnectionIdsToIssue -
      (w.transport t).selfConnectionIds.length) encoded w

omit [DecidableEq α] in
theorem maybeIssueConnectionIds_keepsEntries (encoded : List ι) (w : WorkerWorld α ι)
    (hfresh : w.MaybeIssuesFresh t encoded) :
    Ends (fun _ => True) (w.maybeIssueConnectionIds t encoded) (KeepsEntries t w) := by
  unfold maybeIssueConnectionIds
  split
  · next hissues => exact issueConnectionIds_keepsEntries _ encoded w (hfresh hissues)
  · exact .ok (.refl t w)

/-- The IDs that a datagram makes the transport take are fresh: that of the server, and those that are
issued behind the callbacks. -/
def ReadTakesFresh (w : WorkerWorld α ι) (t : Nat) (input : ReadInput ι) : Prop :=
  ((w.transport t).closeState ≠ .closed → input.startsConnection = true →
    (w.transport t).serverConnectionId = none → w.TakesFresh t input.encoded) ∧
  ∀ read w₁ w₂, w.onServerReadData t input = .ok read →
    (read.2.maybeNotifyRouting t).maybeNotifyFirstPeerPacket t
      (!(w.transport t).hasReceivedPackets) input.onFirstPeerPacketProcessed = .ok w₁ →
    (w₁.maybeNotifyConnectionIdBound t).maybeNotifyHandshakeFinished t input.onFullHandshakeDone =
      .ok w₂ →
    (w₂.maybeNotifyConnectionIdRetired t).MaybeIssuesFresh t read.1

def PendingTakesFresh (t : Nat) : List (ReadInput ι) → WorkerWorld α ι → Prop
  | [], _ => True
  | input :: pendingData, w => w.ReadTakesFresh t input ∧
      ∀ w', w.onNetworkData t input = .ok w' → PendingTakesFresh t pendingData w'

def CryptoTakesFresh (w : WorkerWorld α ι) (t : Nat) (input : CryptoInput ι) : Prop :=
  (w.transport t).closeState = .open → input.updateException = none →
    PendingTakesFresh t input.pendingData (w.updated t input) ∧
      ∀ w₁ w₂, processPendingData t input.pendingData (w.updated t input) = .ok w₁ →
        (w₁.maybeNotifyConnectionIdBound t).maybeNotifyHandshakeFinished t
          input.onFullHandshakeDone = .ok w₂ →
        w₂.MaybeIssuesFresh t input.encoded

theorem notifyAfterRead_keepsEntries (input : ReadInput ι) (encoded : List ι)
    (hannounced : w.Announced t)
    (hfresh : ∀ w₂, (w.maybeNotifyConnectionIdBound t).maybeNotifyHandshakeFinished t
      input.onFullHandshakeDone = .ok w₂ →
      (w₂.maybeNotifyConnectionIdRetired t).MaybeIssuesFresh t encoded) :
    Ends (fun _ => True) (w.notifyAfterRead t input encoded) (KeepsEntries t w) := by
  have hbound := keepsEntries_maybeNotifyConnectionIdBound t w
  have hbound' := (maybeNotifyConnectionIdBound_keeps (t := t) w).1
  unfold notifyAfterRead
  refine (maybeNotifyHandshakeFinished_keepsEntries input.onFullHandshakeDone _).with_eq.bind
    fun w₂ hw₂ => ?_
  obtain ⟨heq, hfinished, hfinished'⟩ := hw₂
  have hretired := keepsEntries_maybeNotifyConnectionIdRetired
    (hannounced.of_keepsIds (hbound'.trans hfinished'))
  refine (maybeIssueConnectionIds_keepsEntries encoded _ (hfresh w₂ heq)).bind fun w₃ hw₃ => ?_
  refine (maybeNotifyTransportReady_keepsEntries input.onTransportReady w₃).imp fun w' hw' => ?_
  have hbefore := (hbound.trans hfinished).trans hretired
  exact hbefore.trans (hw₃.trans hw')

theorem onReadData_keepsEntries (input : ReadInput ι) (hb : w.IsBound t) (hroutable : w.Routable t)
    (hfresh : w.ReadTakesFresh t input) :
    Ends (fun _ => True) (w.onReadData t input) fun r => KeepsEntries t w r.2 := by
  unfold onReadData
  refine (onServerReadData_keepsEntries input hb hfresh.1).with_eq.bind fun read hread => ?_
  obtain ⟨heq, hread⟩ := hread
  split
  · exact .ok hread
  · next hopen =>
      split
      · exact .ok hread
      · have hb' := hread.isBound hb
        have hrouting := keepsEntries_maybeNotifyRouting (hread.routable hroutable hopen)
        refine (maybeNotifyFirstPeerPacket_keepsEntries _ _ _).with_eq.bind fun w₁ hw₁ => ?_
        obtain ⟨heq₁, hfirst, hfirst'⟩ := hw₁
        have hbefore := (hread.trans hrouting).trans hfirst
        split
        · exact .ok hbefore
        · have hannounced := (announced_maybeNotifyRouting hb').of_keepsIds hfirst'
          refine (notifyAfterRead_keepsEntries input read.1 hannounced
            fun w₂ heq₂ => hfresh.2 read w₁ w₂ heq heq₁ heq₂).bind fun w₂ hw₂ => ?_
          exact .ok (hbefore.trans hw₂)

theorem onNetworkData_keepsEntries (input : ReadInput ι) (hb : w.IsBound t)
    (hroutable : w.Routable t) (hfresh : w.ReadTakesFresh t input) :
    Ends (fun _ => True) (w.onNetworkData t input) (KeepsEntries t w) := by
  have hclosing := closingSteps_keepsEntries (α := α) (ι := ι) t
  unfold onNetworkData
  refine (onReadData_keepsEntries input hb hroutable hfresh).bind fun read hread => ?_
  split
  · exact (hclosing.closeImpl_ends trivial true _ _).imp fun _ hw' => hread.trans hw'.1
  · exact (hclosing.closeImpl_ends trivial true _ _).imp fun _ hw' => hread.trans hw'.1
  · split
    · exact .ok hread
    · exact (hclosing.appCalls_ends trivial _ _).imp fun _ hw' => hread.trans hw'

theorem processPendingData_keepsEntries (pendingData : List (ReadInput ι)) (hb : w.IsBound t)
    (hroutable : w.Routable t) (hfresh : PendingTakesFresh t pendingData w) :
    Ends (fun _ => True) (processPendingData t pendingData w) (KeepsEntries t w) := by
  induction pendingData generalizing w with
  | nil => exact .ok (.refl t w)
  | cons input pendingData ih =>
    unfold processPendingData
    refine (onNetworkData_keepsEntries input hb hroutable hfresh.1).with_eq.bind fun w₁ hw₁ => ?_
    obtain ⟨heq, hw₁⟩ := hw₁
    split
    · exact .ok hw₁
    · exact (ih (hw₁.isBound hb) (hw₁.routable hroutable) (hfresh.2 w₁ heq)).imp
        fun w' hw' => hw₁.trans hw'

theorem notifyAfterCrypto_keepsEntries (input : CryptoInput ι)
    (hfresh : ∀ w₂, (w.maybeNotifyConnectionIdBound t).maybeNotifyHandshakeFinished t
      input.onFullHandshakeDone = .ok w₂ → w₂.MaybeIssuesFresh t input.encoded) :
    Ends (fun _ => True) (w.notifyAfterCrypto t input) (KeepsEntries t w) := by
  have hclosing := closingSteps_keepsEntries (α := α) (ι := ι) t
  unfold notifyAfterCrypto
  split
  · exact .ok (.refl t w)
  · split
    · exact (hclosing.closeImpl_ends trivial true _ w).imp fun _ hw' => hw'.1
    · refine (maybeNotifyHandshakeFinished_keepsEntries input.onFullHandshakeDone _).with_eq.bind
        fun w₂ hw₂ => ?_
      obtain ⟨heq, hfinished, -⟩ := hw₂
      have hbefore := (keepsEntries_maybeNotifyConnectionIdBound t w).trans hfinished
      refine (maybeIssueConnectionIds_keepsEntries input.encoded w₂ (hfresh w₂ heq)).bind
        fun w₃ hw₃ => ?_
      have hissued := hbefore.trans hw₃
      split
      · exact (hclosing.closeImpl_ends trivial true _ w₃).imp fun _ hw' => hissued.trans hw'.1
      · exact (maybeNotifyTransportReady_keepsEntries _ w₃).imp fun _ hw' => hissued.trans hw'

theorem onCryptoEventAvailable_keepsEntries (input : CryptoInput ι) (hb : w.IsBound t)
    (hroutable : w.Routable t) (hfresh : w.CryptoTakesFresh t input) :
    Ends (fun _ => True) (w.onCryptoEventAvailable t input) (KeepsEntries t w) := by
  unfold onCryptoEventAvailable
  split
  · exact .ok (.refl t w)
  · have hdone : KeepsEntries t w (w.modify t fun transport =>
        { transport with isHandshakeDone := transport.isHandshakeDone || input.handshakeDone }) :=
    .modify (.modify rfl rfl rfl rfl rfl) rfl rfl rfl id rfl rfl
    dsimp only
    split
    · exact .ok hdone
    · next hopen =>
      rw [not_not, transport_modify] at hopen
      split
      · exact ((closingSteps_keepsEntries t).closeImpl_ends trivial true _ _).imp
          fun _ hw' => hdone.trans hw'.1
      · next hnoUpdate =>
        obtain ⟨hpending, hafter⟩ := hfresh hopen hnoUpdate
        have hlimits : ∀ w' : WorkerWorld α ι, KeepsEntries t w' (w'.modify t fun transport =>
            { transport with
              hasWriteCipher := transport.hasWriteCipher || input.writeCipher
              peerActiveConnectionIdLimit := input.peerActiveConnectionIdLimit }) :=
          fun w' => .modify (.modify rfl rfl rfl rfl rfl) rfl rfl rfl id rfl rfl
        have hupdate : KeepsEntries t w (w.updated t input) := hdone.trans (hlimits _)
        refine (processPendingData_keepsEntries input.pendingData (hupdate.isBound hb)
          (hupdate.routable hroutable) hpending).with_eq.bind fun w₁ hw₁ => ?_
        obtain ⟨heq, hw₁⟩ := hw₁
        exact (notifyAfterCrypto_keepsEntries input fun w₂ => hafter w₁ w₂ heq).imp
          fun _ hw' => (hupdate.trans hw₁).trans hw'

/-! ### Steps of the worker -/

/-- The IDs that a datagram makes the transport take are fresh, and if the datagram ends the connection
it is unbound cleanly. -/
structure ReadRoutesCleanly (w : WorkerWorld α ι) (t : Nat) (input : ReadInput ι) : Prop where
  fresh : w.ReadTakesFresh t input
  unbinds : ∀ w', w.onNetworkData t input = .ok w' → UnbindsCleanly t w w'

def RoutesCleanly (w : WorkerWorld α ι) : WorkerEvent α ι → Prop
  | .longHeader source isInitial setup input => w.shutdown = false →
      ∀ t w', w.dispatchLongHeader source isInitial setup = .ok (some t, w') →
        w'.ReadRoutesCleanly t input
  | .shortHeader dstConnId input => w.shutdown = false →
      ∀ t, findEntry dstConnId w.connectionIdMap = some t → w.ReadRoutesCleanly t input
  | .cryptoEvent t input => w.CryptoTakesFresh t input ∧
      ∀ w', w.onCryptoEventAvailable t input = .ok w' → UnbindsCleanly t w w'
  | .appCalls t calls => ∀ w', w.appCalls t calls = .ok w' → UnbindsCleanly t w w'
  | .closeImpl t drainConnection noDrain =>
      ∀ w', w.closeImpl t drainConnection noDrain = .ok w' → UnbindsCleanly t w w'
  | .drainTimeout t => ∀ w', w.step (.drainTimeout t) = .ok w' → UnbindsCleanly t w w'
  | .destroy t => ∀ w', w.destroy t = .ok w' → UnbindsCleanly t w w'
  | .shutdown => True

/-- The transport that an event is for. -/
def IsFor (w : WorkerWorld α ι) (t : Nat) : WorkerEvent α ι → Prop
  | .longHeader source isInitial setup _ => w.shutdown = false ∧
      ∃ w', w.dispatchLongHeader source isInitial setup = .ok (some t, w')
  | .shortHeader dstConnId _ => w.shutdown = false ∧
      findEntry dstConnId w.connectionIdMap = some t
  | .cryptoEvent u _ | .appCalls u _ | .closeImpl u _ _ | .drainTimeout u | .destroy u => u = t
  | .shutdown => False

/-- The invariant of the worker. -/
structure InOrder (w : WorkerWorld α ι) : Prop where
  isBound : ∀ u, w.IsBound u
  tables : w.Tables
  routable : ∀ u, w.Routable u

omit [DecidableEq α] [DecidableEq ι] in
theorem KeepsEntries.inOrder {w' : WorkerWorld α ι} (h : KeepsEntries t w w') (hw : w.InOrder)
    (hclean : UnbindsCleanly t w w') : w'.InOrder ∧ OthersStay t w w' := by
  obtain ⟨htables, hstay⟩ := h.tables (hw.isBound t) hw.tables hclean
  refine ⟨⟨(KeepsUnbound.of_binds h.toBinds).isBound hw.isBound, htables, fun u => ?_⟩, hstay⟩
  by_cases hut : u = t
  · rw [hut]
    exact h.routable (hw.routable t)
  · unfold Routable
    rw [h.frame u hut]
    exact hw.routable u

theorem makeTransport_inOrder (source : α × ι) (setup : TransportSetup) (hw : w.InOrder) :
    Ends (fun _ => True) (w.makeTransport source setup) fun w' =>
      w'.InOrder ∧ ∀ t, OthersStay t w w' := by
  refine ((makeTransport_keeps source setup w).forget.with_eq).imp fun w' hw' => ?_
  obtain ⟨heq, hkeeps⟩ := hw'
  unfold makeTransport at heq
  split at heq
  · cases heq
  · next hnew =>
      cases heq
      have habsent : (w.transport w.created).routingCb = false := by
        by_contra h
        rw [Bool.not_eq_false] at h
        exact Nat.lt_irrefl _ (hw.tables.created _ h)
      have hold : ∀ u, (w.transport u).routingCb = true → u ≠ w.created := by
        rintro u hu rfl
        rw [habsent] at hu
        cases hu
      have hmem : ∀ entry, entry ∈ emplaceEntry source w.created w.sourceAddressMap →
          entry = (source, w.created) ∨ entry ∈ w.sourceAddressMap := fun _ => mem_emplaceEntry
      have hentries : emplaceEntry source w.created w.sourceAddressMap =
          (source, w.created) :: w.sourceAddressMap := if_neg hnew
      constructor
      · constructor
        · exact hkeeps.isBound hw.isBound
        · constructor
          all_goals dsimp only
          · intro u hu
            by_cases hut : u = w.created
            · rw [hut]
              exact Nat.lt_succ_self _
            · rw [Function.update_of_ne hut] at hu
              exact Nat.lt_succ_of_lt (hw.tables.created u hu)
          · intro entry hentry
            have hentry' := hw.tables.owned entry hentry
            rwa [Function.update_of_ne (hold _ hentry'.1)]
          · intro entry hentry
            rcases hmem entry hentry with rfl | hentry
            · rw [Function.update_self]
              exact ⟨rfl, rfl⟩
            · have hentry' := hw.tables.source entry hentry
              rwa [Function.update_of_ne (hold _ hentry'.1)]
          · intro u hu
            have hu' := hw.tables.bound u hu
            rwa [Function.update_of_ne (hold _ hu')]
          · intro u v id huv hu hv howns hclash
            by_cases hut : u = w.created
            · rw [hut, Function.update_self] at howns
              rcases howns with h | h
              · cases h
              · cases h
            · by_cases hvt : v = w.created
              · rw [hvt, Function.update_self] at hclash
                rcases hclash with h | h
                · cases h
                · cases h
              · rw [Function.update_of_ne hut] at hu howns
                rw [Function.update_of_ne hvt] at hv hclash
                exact hw.tables.disjoint u v id huv hu hv howns hclash
          · rw [hentries, List.map_cons, List.nodup_cons]
            exact ⟨hnew, hw.tables.sourceKeys⟩
        · intro u
          unfold Routable
          dsimp only
          by_cases hut : u = w.created
          · rw [hut, Function.update_self]
            rintro - id hid
            cases hid
          · rw [Function.update_of_ne hut]
            exact hw.routable u
      · intro t
        constructor
        · exact fun entry hentry _ => hentry
        · intro entry hentry _
          dsimp only
          rw [hentries]
          exact List.mem_cons_of_mem _ hentry

theorem dispatchLongHeader_inOrder (source : α × ι) (isInitial : Bool) (setup : TransportSetup)
    (hw : w.InOrder) :
    Ends (fun _ => True) (w.dispatchLongHeader source isInitial setup) fun found =>
      found.2.InOrder ∧ ∀ t, OthersStay t w found.2 := by
  unfold dispatchLongHeader
  split
  · exact .ok ⟨hw, fun t => .refl t w⟩
  · split
    · exact .ok ⟨hw, fun t => .refl t w⟩
    · split
      · exact (makeTransport_inOrder source setup hw).bind fun w' hw' => .ok hw'
      · exact .ok ⟨hw, fun t => .refl t w⟩

/-! ### Shutting down -/

/-- A transport is as it was, or it is not bound any more. -/
structure Shrinks (w w' : WorkerWorld α ι) : Prop where
  created : w'.created = w.created
  transport : ∀ u, (w'.transport u).routingCb = false ∨ w'.transport u = w.transport u

omit [DecidableEq α] [DecidableEq ι] in
theorem Shrinks.trans {w' w'' : WorkerWorld α ι} (h : Shrinks w w') (h' : Shrinks w' w'') :
    Shrinks w w'' where
  created := h'.created.trans h.created
  transport u := by
    rcases h'.transport u with hunbound | heq
    · exact .inl hunbound
    · rw [heq]
      exact h.transport u

theorem shutdownTransport_shrinks (t : Nat) (w : WorkerWorld α ι) :
    Ends (fun _ => True) (w.shutdownTransport t) (Shrinks w) := by
  unfold shutdownTransport
  set nulled := w.modify t fun transport =>
    { transport with routingCb := false, handshakeFinishedCb := false } with hnulled
  have hnull : (nulled.transport t).routingCb = false := by rw [hnulled, transport_modify]
  refine (((closingSteps_binds t).closeNow_ends trivial nulled).also
    (closeNow_sameMaps hnull)).imp fun w' hw' => ?_
  obtain ⟨⟨hbinds, -⟩, hmaps⟩ := hw'
  constructor
  · rw [hbinds.created, hnulled, created_modify]
  · intro u
    by_cases hut : u = t
    · rw [hut]
      exact .inl hmaps.routingCb
    · right
      rw [hbinds.frame u hut, hnulled]
      exact transport_modify_of_ne w t _ hut

theorem shutdownTransports_shrinks (ts : List Nat) (w : WorkerWorld α ι) :
    Ends (fun _ => True) (ts.foldlM shutdownTransport w) (Shrinks w) := by
  induction ts generalizing w with
  | nil => exact .ok ⟨rfl, fun _ => .inr rfl⟩
  | cons t ts ih =>
    rw [List.foldlM_cons]
    exact (shutdownTransport_shrinks t w).bind fun w₁ hw₁ =>
      (ih w₁).imp fun _ hw' => hw₁.trans hw'

/-- The maps are empty after a shutdown. -/
theorem shutdownAllConnections_inOrder (hw : w.InOrder) :
    Ends (fun _ => True) w.shutdownAllConnections InOrder := by
  refine Ends.imp ((shutdownAllConnections_keeps w).forget.with_eq) fun w' hw' => ?_
  obtain ⟨heq, hkeeps⟩ := hw'
  unfold shutdownAllConnections at heq
  split at heq
  · cases heq
    exact hw
  · simp only [except_bind_eq_ok] at heq
    obtain ⟨w₁, h₁, w₂, h₂, heq⟩ := heq
    have hshrinks := ((shutdownTransports_shrinks _ _).of_ok h₁).trans
      ((shutdownTransports_shrinks _ _).of_ok h₂)
    cases heq
    have hb := hkeeps.isBound hw.isBound
    have hsame : ∀ u, (w₂.transport u).routingCb = true → w₂.transport u = w.transport u := by
      intro u hu
      rcases hshrinks.transport u with hunbound | heq
      · rw [hunbound] at hu
        cases hu
      · exact heq
    refine ⟨hb, ?_, ?_⟩
    · constructor
      · intro u hu
        dsimp only at hu ⊢
        rw [hsame u hu] at hu
        rw [hshrinks.created]
        exact hw.tables.created u hu
      · exact fun _ hentry => absurd hentry List.not_mem_nil
      · exact fun _ hentry => absurd hentry List.not_mem_nil
      · exact fun _ hu => absurd hu List.not_mem_nil
      · intro u v id huv hu hv howns
        have hequ := hsame u hu
        have heqv := hsame v hv
        dsimp only at hu hv howns ⊢
        rw [hequ] at hu howns
        rw [heqv] at hv ⊢
        exact hw.tables.disjoint u v id huv hu hv howns
      · exact List.nodup_nil
    · intro u hopen
      have heq := hsame u ((hb u).bound hopen).1
      dsimp only at hopen ⊢
      rw [heq] at hopen ⊢
      exact hw.routable u hopen

/-! ### Runs -/

theorem drainTimeout_inOrder (t : Nat) (hw : w.InOrder)
    (hclean : ∀ w', w.step (.drainTimeout t) = .ok w' → UnbindsCleanly t w w') :
    Ends (fun _ => True) (w.step (.drainTimeout t)) fun w' => w'.InOrder ∧ OthersStay t w w' := by
  have hentries := closingSteps_keepsEntries (α := α) (ι := ι) t
  have hkeeps : Ends (fun _ => True) (w.step (.drainTimeout t)) (KeepsEntries t w) := by
    dsimp only [step]
    split
    · next htimeout =>
        have hclosed : (w.transport t).closeState = .closed := by
          by_contra hopen
          rw [((hw.isBound t).bound hopen).2] at htimeout
          cases htimeout
        have hdrain := hentries.drain w false hclosed
        exact .ok (hdrain.trans (hentries.unbind _ (hdrain.closed hclosed)))
    · exact .ok (.refl t w)
  exact hkeeps.with_eq.imp fun w' hw' => hw'.2.inOrder hw (hclean w' hw'.1)

/-- A packet with a long header may create the transport that reads it. -/
theorem longHeader_inOrder {source : α × ι} {isInitial : Bool} {setup : TransportSetup}
    {input : ReadInput ι} (hw : w.InOrder)
    (hclean : w.RoutesCleanly (.longHeader source isInitial setup input)) :
    Ends (fun _ => True) (w.step (.longHeader source isInitial setup input)) fun w' =>
      w'.InOrder ∧ ∀ t, w.IsFor t (.longHeader source isInitial setup input) →
        OthersStay t w w' := by
  dsimp only [step]
  split
  · next hshutdown =>
      refine .ok ⟨hw, fun t hfor => ?_⟩
      rw [hfor.1] at hshutdown
      cases hshutdown
  · next hrunning =>
      rw [Bool.not_eq_true] at hrunning
      refine (dispatchLongHeader_inOrder source isInitial setup hw).with_eq.bind
        fun found hfound => ?_
      obtain ⟨heq, hw₁, hstay⟩ := hfound
      cases hto : found.1 with
      | none =>
        refine .ok ⟨hw₁, fun t hfor => ?_⟩
        obtain ⟨-, w', hfor⟩ := hfor
        rw [heq] at hfor
        cases hfor
        cases hto
      | some t =>
        have hread := hclean hrunning t found.2 (by rw [heq, ← hto])
        refine (onNetworkData_keepsEntries input (hw₁.isBound t) (hw₁.routable t)
          hread.fresh).with_eq.imp fun w' hw' => ?_
        obtain ⟨hw₂, hstay'⟩ := hw'.2.inOrder hw₁ (hread.unbinds w' hw'.1)
        refine ⟨hw₂, fun u hfor => ?_⟩
        obtain ⟨-, w'', hfor⟩ := hfor
        rw [heq] at hfor
        cases hfor
        cases hto
        exact (hstay t).trans hstay'

/-- A packet with a short header goes to the transport that has its ID. -/
theorem shortHeader_inOrder {dstConnId : ι} {input : ReadInput ι} (hw : w.InOrder)
    (hclean : w.RoutesCleanly (.shortHeader dstConnId input)) :
    Ends (fun _ => True) (w.step (.shortHeader dstConnId input)) fun w' =>
      w'.InOrder ∧ ∀ t, w.IsFor t (.shortHeader dstConnId input) → OthersStay t w w' := by
  dsimp only [step]
  split
  · next hshutdown =>
      refine .ok ⟨hw, fun t hfor => ?_⟩
      rw [hfor.1] at hshutdown
      cases hshutdown
  · next hrunning =>
      rw [Bool.not_eq_true] at hrunning
      cases hto : findEntry dstConnId w.connectionIdMap with
      | none =>
        refine .ok ⟨hw, fun t hfor => ?_⟩
        rw [hfor.2] at hto
        cases hto
      | some t =>
        have hread := hclean hrunning t hto
        refine (onNetworkData_keepsEntries input (hw.isBound t) (hw.routable t)
          hread.fresh).with_eq.imp fun w' hw' => ?_
        obtain ⟨hw₂, hstay⟩ := hw'.2.inOrder hw (hread.unbinds w' hw'.1)
        refine ⟨hw₂, fun u hfor => ?_⟩
        rw [hfor.2] at hto
        cases hto
        exact hstay

/-- A step whose IDs are fresh and that unbinds cleanly keeps the worker in order, and what it is not
for. -/
theorem step_inOrder (event : WorkerEvent α ι) (hw : w.InOrder) (hclean : w.RoutesCleanly event) :
    Ends (fun _ => True) (w.step event) fun w' =>
      w'.InOrder ∧ ∀ t, w.IsFor t event → OthersStay t w w' := by
  have hentries := fun t => closingSteps_keepsEntries (α := α) (ι := ι) t
  cases event with
  | longHeader source isInitial setup input => exact longHeader_inOrder hw hclean
  | shortHeader dstConnId input => exact shortHeader_inOrder hw hclean
  | cryptoEvent t input =>
    refine (onCryptoEventAvailable_keepsEntries input (hw.isBound t) (hw.routable t)
      hclean.1).with_eq.imp fun w' hw' => ?_
    obtain ⟨hw₁, hstay⟩ := hw'.2.inOrder hw (hclean.2 w' hw'.1)
    refine ⟨hw₁, ?_⟩
    rintro u rfl
    exact hstay
  | appCalls t calls =>
    refine ((hentries t).appCalls_ends trivial calls w).with_eq.imp fun w' hw' => ?_
    obtain ⟨hw₁, hstay⟩ := hw'.2.inOrder hw (hclean w' hw'.1)
    refine ⟨hw₁, ?_⟩
    rintro u rfl
    exact hstay
  | closeImpl t drainConnection noDrain =>
    refine ((hentries t).closeImpl_ends trivial drainConnection noDrain w).with_eq.imp
      fun w' hw' => ?_
    obtain ⟨hw₁, hstay⟩ := hw'.2.1.inOrder hw (hclean w' hw'.1)
    refine ⟨hw₁, ?_⟩
    rintro u rfl
    exact hstay
  | drainTimeout t =>
    refine (drainTimeout_inOrder t hw hclean).imp fun w' hw' => ⟨hw'.1, ?_⟩
    rintro u rfl
    exact hw'.2
  | destroy t =>
    refine ((hentries t).destroy_ends trivial w).with_eq.imp fun w' hw' => ?_
    obtain ⟨hw₁, hstay⟩ := hw'.2.inOrder hw (hclean w' hw'.1)
    refine ⟨hw₁, ?_⟩
    rintro u rfl
    exact hstay
  | shutdown =>
    exact (shutdownAllConnections_inOrder hw).imp fun w' hw' => ⟨hw', fun t hfor => False.elim hfor⟩

omit [DecidableEq α] [DecidableEq ι] in
theorem inOrder_start (source : α × ι) (unfinished : Int) : (start source unfinished).InOrder where
  isBound := isBound_start source unfinished
  tables := by
    constructor
    · nofun
    · nofun
    · nofun
    · nofun
    · nofun
    · exact List.nodup_nil
  routable _ hopen := absurd rfl hopen

/-- In every run of such steps the tables are right in every state, and no event of one transport
removes an entry of another. -/
theorem routingTables_owned (source : α × ι) (unfinished : Int) (events : List (WorkerEvent α ι))
    (hclean : Meets step RoutesCleanly (start source unfinished) events) :
    (∀ earlier w, earlier <+: events → earlier.foldlM step (start source unfinished) = .ok w →
      w.RoutingTables) ∧
    ∀ earlier event w w', earlier ++ [event] <+: events →
      earlier.foldlM step (start source unfinished) = .ok w → w.step event = .ok w' →
      ∀ t, w.IsFor t event → OthersStay t w w' := by
  have hrun : ∀ earlier w, earlier <+: events →
      earlier.foldlM step (start source unfinished) = .ok w → w.InOrder := by
    intro earlier w hearlier hrun
    refine @run_invariant_of_meets _ _ _ step RoutesCleanly InOrder ?_ _ _ _
      (inOrder_start source unfinished) (hclean.of_prefix hearlier) hrun
    exact fun w event w' hw hclean heq => ((step_inOrder event hw hclean).of_ok heq).1
  constructor
  · exact fun earlier w hearlier heq => (hrun earlier w hearlier heq).tables.routingTables
  · intro earlier event w w' hprefix heq hstep t hfor
    have hw := hrun earlier w ((List.prefix_append earlier [event]).trans hprefix) heq
    have hevent := meets_iff_forall_prefix.mp hclean earlier event w hprefix heq
    exact ((step_inOrder event hw hevent).of_ok hstep).2 t hfor

/-- A datagram of a client, without exceptions and calls. -/
def plainRead (encoded : List Nat) (retired : List Nat) : ReadInput Nat where
  encoded := encoded
  startsConnection := true
  receivesPackets := true
  handshakeDone := false
  writeCipher := false
  peerActiveConnectionIdLimit := 2
  retired := retired
  readException := none
  onFirstPeerPacketProcessed := []
  laterException := none
  onFullHandshakeDone := []
  onTransportReady := []
  peerConnectionError := none
  afterwards := []

/-- The first datagram of a client, and the crypto event that completes the handshake. -/
def plainHandshake (source : Nat × Nat) (t : Nat) (first issued : List Nat) :
    List (WorkerEvent Nat Nat) :=
  [.longHeader source true ⟨true, false, false⟩ (plainRead first []),
    .cryptoEvent t
    { encoded := issued, handshakeDone := true, writeCipher := true
      peerActiveConnectionIdLimit := 2, updateException := none, pendingData := []
      laterException := none, onFullHandshakeDone := [], writeException := none
      onTransportReady := [] }]

/-- A client retires an ID, for which it gets another, and the application closes. -/
def retireThenClose : List (WorkerEvent Nat Nat) :=
  plainHandshake (0, 0) 0 [1] [2] ++
    [.shortHeader 2 (plainRead [3] [0]), .appCalls 0 [.closeNow]]

omit [DecidableEq α] [DecidableEq ι] in
/-- Where no other transport is bound every ID is fresh. -/
theorem freshFor_zero (halone : ∀ n, (w.transport (n + 1)).routingCb = false) (id : ι) :
    w.FreshFor 0 id := by
  intro u hu hr
  cases u with
  | zero => exact absurd rfl hu
  | succ n =>
    rw [halone n] at hr
    cases hr

theorem routingTables_owned_closeNow :
    (∀ earlier w, earlier <+: retireThenClose →
      earlier.foldlM step (start (0, 0) 0) = .ok w → w.RoutingTables) ∧
    ∀ earlier event w w', earlier ++ [event] <+: retireThenClose →
      earlier.foldlM step (start (0, 0) 0) = .ok w → w.step event = .ok w' →
      ∀ t, w.IsFor t event → OthersStay t w w' := by
  apply routingTables_owned
  constructor
  · intro _ t w₁ hfound
    cases hfound
    constructor
    · constructor
      · intro _ _ _ connId encoded' w' _
        exact freshFor_zero (fun _ => rfl) _
      · intro read w₁ w₂ hread hfirst hfinished hissues
        cases hread
        cases hfirst
        cases hfinished
        cases hissues
    · intro w' hw' last hlast
      cases hw'
      cases hlast
  · intro w hw
    cases hw
    constructor
    · constructor
      · intro _ _
        constructor
        · trivial
        · intro w₁ w₂ hpending hfinished _
          cases hpending
          cases hfinished
          constructor
          · intro connId encoded' w' _
            exact freshFor_zero (fun _ => rfl) _
          · intro connId encoded' w' hcreate
            cases hcreate
            trivial
      · intro w' hw' last hlast
        cases hw'
        cases hlast
    · intro w hw
      cases hw
      constructor
      · intro _ t hfound
        cases hfound
        constructor
        · constructor
          · nofun
          · intro read w₁ w₂ hread hfirst hfinished _
            cases hread
            cases hfirst
            cases hfinished
            constructor
            · intro connId encoded' w' _
              exact freshFor_zero (fun _ => rfl) _
            · intro connId encoded' w' hcreate
              cases hcreate
              trivial
        · intro w' hw' last hlast
          cases hw'
          cases hlast
      · intro w hw
        cases hw
        constructor
        · intro w' hw' last hlast
          cases hw'
          cases hlast
          constructor
          · intro u hu
            cases hu
          · nofun
          · rfl
        · intro w' _
          trivial

/-- A client retires an ID in a datagram that ends in an error. -/
def retireThenError : List (WorkerEvent Nat Nat) :=
  plainHandshake (0, 0) 0 [1] [2] ++
    [.shortHeader 2 { plainRead [] [0] with readException := some true }]

/-- A client repeats its first datagram when its handshake is done. -/
def repeatedInitial : List (WorkerEvent Nat Nat) :=
  plainHandshake (0, 0) 0 [1] [] ++
    [.longHeader (0, 0) true ⟨true, false, false⟩ (plainRead [2] [])]

/-- The worker keeps an ID of the connection that was closed, and the first connection of a client that
repeats itself takes the entry of the second with it. -/
theorem routingTables_leftover :
    (∃ w, retireThenError.foldlM step (start (0, 0) 0) = .ok w ∧
      (w.transport 0).routingCb = false ∧ (1, 0) ∈ w.connectionIdMap) ∧
    ∃ w w', repeatedInitial.foldlM step (start (0, 0) 0) = .ok w ∧
      w.step (.appCalls 0 [.closeNow]) = .ok w' ∧
      ((0, 0), 1) ∈ w.sourceAddressMap ∧ ((0, 0), 1) ∉ w'.sourceAddressMap := by
  constructor
  · refine ⟨_, rfl, rfl, ?_⟩
    decide
  · refine ⟨_, _, rfl, rfl, ?_, ?_⟩
    · decide
    · decide

end WorkerWorld

end MasqueQuic
