/-
The limits on the streams of the peer.

Closing streams gives the peer credit for new ones, computed from the limit in the settings, from
the limit that is enforced and from the number of open streams. A resumed connection may replace
the first of these by the value of the ticket while the other two stay as they are.
-/

import MasqueQuic.Quic.PeerStreams

namespace MasqueQuic

namespace RemoteStreams

variable {r r' : RemoteStreams} {streamId : Nat} {credit : StreamCredit} {fraction : Nat}

/-- How many streams the peer can use at the same time: those that are open and those that it may
still open. -/
def usable (r : RemoteStreams) : Nat :=
  r.openPeerStreams.card +
    (r.maxRemoteStreamId - r.nextAcceptablePeerStreamId) / kStreamIncrement

structure Inv (r : RemoteStreams) : Prop where
  next : r.nextAcceptablePeerStreamId % kStreamIncrement = r.initialRemoteStreamId
  max : r.maxRemoteStreamId = r.maxStreams * kStreamIncrement + r.initialRemoteStreamId
  bounded : r.maxStreams ≤ kMaxMaxStreams
  ordered : r.nextAcceptablePeerStreamId ≤ r.maxRemoteStreamId
  unopened : ∀ id ∈ r.openPeerStreams, id < r.nextAcceptablePeerStreamId
  limit : r.advertisedInitialMaxStreams ≤ kMaxMaxStreams

/-! ### Opening -/

theorem card_openUpTo (hr : r.Inv) :
    (r.openUpTo streamId).openPeerStreams.card = r.openPeerStreams.card +
      ((streamId - r.nextAcceptablePeerStreamId) / kStreamIncrement + 1) := by
  have hdisjoint : Disjoint r.openPeerStreams (r.newStreamIds streamId).toFinset := by
    rw [Finset.disjoint_left]
    intro id hid hnew
    obtain ⟨i, -, rfl⟩ := List.mem_range'.mp (List.mem_toFinset.mp hnew)
    have := hr.unopened _ hid
    omega
  have hnodup : (r.newStreamIds streamId).Nodup := List.nodup_range' _ (by decide)
  change (r.openPeerStreams ∪ (r.newStreamIds streamId).toFinset).card = _
  rw [Finset.card_union_of_disjoint hdisjoint, List.toFinset_card_of_nodup hnodup, newStreamIds,
    List.length_range']

/-- Opening streams uses up what could be opened. -/
theorem usable_openUpTo (hr : r.Inv)
    (hkind : streamId % kStreamIncrement = r.initialRemoteStreamId)
    (hunseen : r.nextAcceptablePeerStreamId ≤ streamId) (hbelow : streamId < r.maxRemoteStreamId) :
    (r.openUpTo streamId).usable = r.usable := by
  have hnext := hr.next
  have hmax := hr.max
  rw [usable, card_openUpTo hr, usable]
  change _ + (r.maxRemoteStreamId - (streamId + kStreamIncrement)) / kStreamIncrement = _
  unfold kStreamIncrement at *
  omega

theorem Inv.openUpTo (hr : r.Inv)
    (hkind : streamId % kStreamIncrement = r.initialRemoteStreamId)
    (hunseen : r.nextAcceptablePeerStreamId ≤ streamId) (hbelow : streamId < r.maxRemoteStreamId) :
    (r.openUpTo streamId).Inv := by
  have hmax := hr.max
  refine ⟨?_, hr.max, hr.bounded, ?_, ?_, hr.limit⟩
  · exact (Nat.add_mod_right streamId kStreamIncrement).trans hkind
  · change streamId + kStreamIncrement ≤ r.maxRemoteStreamId
    unfold kStreamIncrement at *
    omega
  · intro id hid
    change id < streamId + kStreamIncrement
    rcases Finset.mem_union.mp hid with hold | hnew
    · have := hr.unopened id hold
      omega
    · obtain ⟨i, hi, rfl⟩ := List.mem_range'.mp (List.mem_toFinset.mp hnew)
      unfold kStreamIncrement at *
      omega

/-! ### Closing -/

def erased (r : RemoteStreams) (streamId : Nat) : RemoteStreams :=
  { r with openPeerStreams := r.openPeerStreams.erase streamId }

/-- The limit is raised, if it is lower, and the peer is going to be told. -/
def withLimit (r : RemoteStreams) (limit : Nat) : RemoteStreams :=
  { r with
    maxRemoteStreamId := Max.max (limit * kStreamIncrement + r.initialRemoteStreamId)
      r.maxRemoteStreamId
    remoteStreamLimitUpdate := some limit }

theorem Inv.erased (hr : r.Inv) (streamId : Nat) : (r.erased streamId).Inv :=
  ⟨hr.next, hr.max, hr.bounded, hr.ordered,
    fun id hid => hr.unopened id (Finset.mem_of_mem_erase hid), hr.limit⟩

theorem usable_erased (streamId : Nat) : (r.erased streamId).usable ≤ r.usable :=
  Nat.add_le_add_right (Finset.card_le_card (Finset.erase_subset _ _)) _

/-- What the credit after a removal is computed from. -/
def creditOf (r : RemoteStreams) : StreamCredit where
  initialStreamLimit := r.advertisedInitialMaxStreams
  openableRemoteStreams :=
    (r.maxRemoteStreamId - r.nextAcceptablePeerStreamId) / kStreamIncrement
  openPeerStreams := r.openPeerStreams.card

theorem setMaxRemoteStreamsInternal_eq_ok {limit : Nat}
    (hset : r.setMaxRemoteStreamsInternal limit false = .ok r') :
    limit ≤ kMaxMaxStreams ∧ r' = { r with
      maxRemoteStreamId :=
        Max.max (limit * kStreamIncrement + r.initialRemoteStreamId) r.maxRemoteStreamId } := by
  unfold setMaxRemoteStreamsInternal at hset
  split at hset
  · cases hset
  · rename_i hle
    refine ⟨Nat.le_of_not_lt hle, ?_⟩
    dsimp only at hset
    rw [Bool.false_or, Except.ok.injEq] at hset
    rw [← hset]
    split
    · rename_i hgt
      rw [Nat.max_eq_left (Nat.le_of_lt (of_decide_eq_true hgt))]
    · rename_i hgt
      rw [Nat.max_eq_right (Nat.le_of_not_lt (mt decide_eq_true hgt))]

theorem removeClosedStream_cases (hr : r.Inv)
    (hremove : r.removeClosedStream fraction streamId = .ok (r', credit)) :
    credit = (r.erased streamId).creditOf ∧ (r' = r.erased streamId ∨
      ∃ limit ≤ kMaxMaxStreams, limit = u64 (r.maxStreams + credit.streamCredit) ∧
        r' = (r.erased streamId).withLimit limit) := by
  unfold removeClosedStream at hremove
  rw [except_bind_eq_ok] at hremove
  obtain ⟨openable, hopenable, hremove⟩ := hremove
  change (r.erased streamId).openableRemoteStreams = _ at hopenable
  rw [openableRemoteStreams, if_neg (Nat.not_lt.mpr (hr.erased streamId).ordered)] at hopenable
  cases hopenable
  dsimp only at hremove
  split at hremove
  · rw [except_bind_eq_ok] at hremove
    obtain ⟨limited, hlimited, hremove⟩ := hremove
    cases hremove
    obtain ⟨hle, rfl⟩ := setMaxRemoteStreamsInternal_eq_ok hlimited
    exact ⟨rfl, .inr ⟨_, hle, rfl, rfl⟩⟩
  · cases hremove
    exact ⟨rfl, .inl rfl⟩

theorem maxStreams_withLimit (hr : r.Inv) (limit : Nat) :
    (r.withLimit limit).maxStreams = Max.max limit r.maxStreams := by
  have hmax := hr.max
  unfold maxStreams withLimit
  unfold maxStreams at hmax
  unfold kStreamIncrement at *
  dsimp only
  omega

theorem Inv.withLimit {limit : Nat} (hr : r.Inv) (hlimit : limit ≤ kMaxMaxStreams) :
    (r.withLimit limit).Inv where
  next := hr.next
  max := by
    rw [maxStreams_withLimit hr]
    have hmax := hr.max
    change Max.max (limit * kStreamIncrement + r.initialRemoteStreamId) r.maxRemoteStreamId =
      Max.max limit r.maxStreams * kStreamIncrement + r.initialRemoteStreamId
    unfold kStreamIncrement at *
    omega
  bounded := by
    rw [maxStreams_withLimit hr]
    exact Nat.max_le.mpr ⟨hlimit, hr.bounded⟩
  ordered := hr.ordered.trans (Nat.le_max_right _ _)
  unopened := hr.unopened
  limit := hr.limit

/-- Without a wrap the credit is what is missing to the limit in the settings. -/
theorem streamCredit_creditOf (hr : r.Inv) (husable : r.usable ≤ r.advertisedInitialMaxStreams) :
    r.creditOf.streamCredit = r.advertisedInitialMaxStreams - r.usable := by
  have hlimit := hr.limit
  unfold usable at *
  unfold kMaxMaxStreams at hlimit
  unfold StreamCredit.streamCredit creditOf
  dsimp only
  generalize (r.maxRemoteStreamId - r.nextAcceptablePeerStreamId) / kStreamIncrement = openable at *
  have hfirst : sub64 r.advertisedInitialMaxStreams openable =
      r.advertisedInitialMaxStreams - openable := sub64_of_le (by omega) (by omega)
  rw [hfirst, sub64_of_le (by omega) (by omega)]
  omega

theorem usable_withLimit {limit : Nat} (hr : r.Inv) (hle : r.maxStreams ≤ limit) :
    (r.withLimit limit).usable = r.usable + (limit - r.maxStreams) := by
  have hmax := hr.max
  have hnext := hr.next
  have hordered := hr.ordered
  unfold usable withLimit
  dsimp only
  unfold kStreamIncrement at *
  omega

theorem removeClosedStream_inv (hr : r.Inv)
    (hremove : r.removeClosedStream fraction streamId = .ok (r', credit)) :
    r'.Inv ∧ r'.initialRemoteStreamId = r.initialRemoteStreamId := by
  obtain ⟨-, rfl | ⟨limit, hlimit, -, rfl⟩⟩ := removeClosedStream_cases hr hremove
  · exact ⟨hr.erased streamId, rfl⟩
  · exact ⟨(hr.erased streamId).withLimit hlimit, rfl⟩

/-- A removal that starts within the limit of the settings stays within it, and the peer is told
what is enforced. -/
theorem removeClosedStream_kept (hr : r.Inv)
    (husable : r.usable ≤ r.advertisedInitialMaxStreams)
    (hupdate : r.remoteStreamLimitUpdate = none)
    (hremove : r.removeClosedStream fraction streamId = .ok (r', credit)) :
    credit.openableRemoteStreams + credit.openPeerStreams ≤ credit.initialStreamLimit ∧
      r'.usable ≤ r'.advertisedInitialMaxStreams ∧ r.maxStreams ≤ r'.maxStreams ∧
      (r'.remoteStreamLimitUpdate = none ∧ r'.maxStreams = r.maxStreams ∨
        r'.remoteStreamLimitUpdate = some r'.maxStreams) := by
  have hr' := hr.erased streamId
  have hle : (r.erased streamId).usable ≤ (r.erased streamId).advertisedInitialMaxStreams :=
    (usable_erased streamId).trans husable
  have hcredit := streamCredit_creditOf hr' hle
  obtain ⟨rfl, hcases⟩ := removeClosedStream_cases hr hremove
  refine ⟨?_, ?_⟩
  · change _ / _ + (r.erased streamId).openPeerStreams.card ≤ _
    rw [Nat.add_comm]
    exact hle
  · rcases hcases with rfl | ⟨limit, -, hlimit, rfl⟩
    · exact ⟨hle, Nat.le_refl _, .inl ⟨hupdate, rfl⟩⟩
    · have hbounded := hr'.bounded
      have hsettings := hr'.limit
      have hsame : (r.erased streamId).maxStreams = r.maxStreams := rfl
      -- neither term of the sum exceeds `2 ^ 60`
      have hsum : limit = r.maxStreams + (r.erased streamId).creditOf.streamCredit := by
        rw [hlimit, u64]
        refine Nat.mod_eq_of_lt ?_
        unfold kMaxMaxStreams at *
        omega
      have hmax : ((r.erased streamId).withLimit limit).maxStreams = limit := by
        rw [maxStreams_withLimit hr']
        omega
      refine ⟨?_, by omega, .inr ?_⟩
      · rw [usable_withLimit hr' (by omega)]
        change _ ≤ (r.erased streamId).advertisedInitialMaxStreams
        omega
      · rw [hmax]
        rfl

theorem new_spec {nodeType : QuicNodeType} {d : StreamDirectionality} {limit : Nat}
    (hnew : new nodeType d limit = .ok r) :
    r.Inv ∧ r.initialRemoteStreamId = MasqueQuic.initialRemoteStreamId nodeType d ∧
      r.remoteStreamLimitUpdate = none ∧ r.maxStreams = limit ∧
      r.usable ≤ r.advertisedInitialMaxStreams ∧
      r.nextAcceptablePeerStreamId = MasqueQuic.initialRemoteStreamId nodeType d ∧
      r.openPeerStreams = ∅ := by
  unfold new setMaxRemoteStreamsInternal at hnew
  split at hnew
  · cases hnew
  · rename_i hle
    cases hnew
    have hmax : ∀ initial : Nat,
        (limit * kStreamIncrement + initial - initial) / kStreamIncrement = limit := by
      intro initial
      unfold kStreamIncrement
      omega
    refine ⟨⟨?_, ?_, ?_, ?_, ?_, Nat.le_of_not_lt hle⟩, rfl, rfl, hmax _, ?_, rfl, rfl⟩
    · cases nodeType <;> cases d <;> rfl
    · exact congrArg (· * kStreamIncrement + _) (hmax _).symm
    · exact (hmax _).trans_le (Nat.le_of_not_lt hle)
    · exact Nat.le_add_left _ _
    · exact fun id hid => absurd hid (Finset.notMem_empty id)
    · change 0 + _ ≤ limit
      rw [Nat.zero_add]
      exact (hmax _).le

end RemoteStreams

namespace PeerStreams

variable {m m' : PeerStreams} {streamId : Nat} {streamGroupId : Option StreamGroupId}

structure Inv (m : PeerStreams) : Prop where
  remote : ∀ d, (m.remote d).Inv
  initial : ∀ d, (m.remote d).initialRemoteStreamId = initialRemoteStreamId m.nodeType d
  told : ∀ d, (m.remote d).remoteStreamLimitUpdate = none

/-- What is promised about the limits, in terms of the settings at the time. -/
structure LimitsKept (m : PeerStreams) : Prop where
  noWrap : ∀ c ∈ m.history.credits,
    c.openableRemoteStreams + c.openPeerStreams ≤ c.initialStreamLimit
  rising : ∀ d, (m.history.advertised d).Pairwise (· ≥ ·)
  enforced : ∀ d, (m.history.advertised d).head? = some (m.remote d).maxStreams
  usable : ∀ d, (m.remote d).usable ≤ (m.remote d).advertisedInitialMaxStreams

/-- A ticket is accepted only if it allows all the streams that the peer may already use. -/
def TicketCovers (m : PeerStreams) : PeerStreamEvent → Prop
  | .ticket initialMaxStreamsBidi initialMaxStreamsUni =>
      m.ticketAccepted initialMaxStreamsBidi initialMaxStreamsUni = true →
        (m.remote .bidirectional).usable ≤ initialMaxStreamsBidi ∧
        (m.remote .unidirectional).usable ≤ initialMaxStreamsUni
  | _ => True

instance (m : PeerStreams) : (e : PeerStreamEvent) → Decidable (m.TicketCovers e)
  | .ticket _ _ => inferInstanceAs (Decidable (_ = true → _ ≤ _ ∧ _ ≤ _))
  | .frame _ _ => isTrue trivial
  | .close _ => isTrue trivial
  | .newStreams => isTrue trivial
  | .newGroupedStreams => isTrue trivial
  | .setStreamLimitWindowingFraction _ => isTrue trivial

/-! ### Steps that leave the limits alone -/

structure SameLimits (m m' : PeerStreams) : Prop where
  inv : m'.Inv
  credits : m'.history.credits = m.history.credits
  advertised : m'.history.advertised = m.history.advertised
  maxStreams : ∀ d, (m'.remote d).maxStreams = (m.remote d).maxStreams
  usable : ∀ d, (m'.remote d).usable = (m.remote d).usable
  settings : ∀ d,
    (m'.remote d).advertisedInitialMaxStreams = (m.remote d).advertisedInitialMaxStreams

theorem SameLimits.of_remote (hm : m.Inv) (hremote : m'.remote = m.remote)
    (hnode : m'.nodeType = m.nodeType) (hcredits : m'.history.credits = m.history.credits)
    (hadvertised : m'.history.advertised = m.history.advertised) : SameLimits m m' := by
  refine ⟨⟨?_, ?_, ?_⟩, hcredits, hadvertised, ?_, ?_, ?_⟩
  · rw [hremote]
    exact hm.remote
  · rw [hremote, hnode]
    exact hm.initial
  · rw [hremote]
    exact hm.told
  all_goals
    intro d
    rw [hremote]

theorem SameLimits.trans {m'' : PeerStreams} (h : SameLimits m m') (h' : SameLimits m' m'') :
    SameLimits m m'' where
  inv := h'.inv
  credits := h'.credits.trans h.credits
  advertised := h'.advertised.trans h.advertised
  maxStreams d := (h'.maxStreams d).trans (h.maxStreams d)
  usable d := (h'.usable d).trans (h.usable d)
  settings d := (h'.settings d).trans (h.settings d)

theorem LimitsKept.of_same (hm : m.LimitsKept) (hsame : SameLimits m m') : m'.LimitsKept where
  noWrap := by
    rw [hsame.credits]
    exact hm.noWrap
  rising := by
    rw [hsame.advertised]
    exact hm.rising
  enforced d := by
    rw [hsame.advertised, hsame.maxStreams]
    exact hm.enforced d
  usable d := by
    rw [hsame.usable, hsame.settings]
    exact hm.usable d

theorem SameLimits.instantiatePeerStream (hm : m.Inv) (streamId : Nat)
    (streamGroupId : Option StreamGroupId) :
    SameLimits m (m.instantiatePeerStream streamId streamGroupId) := by
  obtain ⟨new, seen, heq⟩ := m.instantiatePeerStream_eq streamId streamGroupId
  rw [heq]
  exact .of_remote hm rfl rfl rfl rfl

/-- Replacing the streams of one kind. -/
theorem forall_setRemote {P : StreamDirectionality → RemoteStreams → Prop}
    {d : StreamDirectionality} {r : RemoteStreams} (hr : P d r)
    (hm : ∀ d', d' ≠ d → P d' (m.remote d')) : ∀ d', P d' ((m.setRemote d r).remote d') := by
  intro d'
  by_cases hd : d' = d
  · subst hd
    change P d' (Function.update m.remote d' r d')
    rw [Function.update_self]
    exact hr
  · change P d' (Function.update m.remote d r d')
    rw [Function.update_of_ne hd]
    exact hm d' hd

theorem SameLimits.withOpened (hm : m.Inv)
    (hvalid : m.validateStream streamId streamGroupId = .ok ())
    (hunseen :
      (m.remote (getStreamDirectionality streamId)).nextAcceptablePeerStreamId ≤ streamId)
    (hbelow : streamId < (m.remote (getStreamDirectionality streamId)).maxRemoteStreamId) :
    SameLimits m (m.withOpened
      ((m.remote (getStreamDirectionality streamId)).openUpTo streamId) streamId
      streamGroupId) := by
  have hkind := kind_iff.mpr ⟨isRemoteStream_of_validateStream hvalid, rfl⟩
  rw [← hm.initial] at hkind
  rw [withOpened_eq]
  dsimp only
  generalize getStreamDirectionality streamId = d at *
  have hr := hm.remote d
  refine ⟨⟨?_, ?_, ?_⟩, rfl, rfl, ?_, ?_, ?_⟩
  · exact forall_setRemote (P := fun _ r => r.Inv) (hr.openUpTo hkind hunseen hbelow)
      fun d _ => hm.remote d
  · exact forall_setRemote
      (P := fun d r => r.initialRemoteStreamId = initialRemoteStreamId m.nodeType d)
      (hm.initial d) fun d _ => hm.initial d
  · exact forall_setRemote (P := fun _ r => r.remoteStreamLimitUpdate = none) (hm.told d)
      fun d _ => hm.told d
  · exact forall_setRemote (P := fun d r => r.maxStreams = (m.remote d).maxStreams) rfl
      fun _ _ => rfl
  · exact forall_setRemote (P := fun d r => r.usable = (m.remote d).usable)
      (RemoteStreams.usable_openUpTo hr hkind hunseen hbelow) fun _ _ => rfl
  · exact forall_setRemote (P := fun d r => r.advertisedInitialMaxStreams =
      (m.remote d).advertisedInitialMaxStreams) rfl fun _ _ => rfl

theorem SameLimits.refl (hm : m.Inv) : SameLimits m m := .of_remote hm rfl rfl rfl rfl

theorem SameLimits.getOrCreatePeerStream {stream : Option (Option StreamGroupId)} (hm : m.Inv)
    (hget : m.getOrCreatePeerStream streamId streamGroupId = .ok (stream, m')) :
    SameLimits m m' := by
  obtain ⟨hvalid, hgets⟩ := gets_of_getOrCreatePeerStream hget
  cases hgets with
  | «exists» groupId found => exact .refl hm
  | instantiated absent isOpen => exact .instantiatePeerStream hm _ _
  | closed notOpen seen => exact .refl hm
  | opened absent unseen below =>
    have hopened := SameLimits.withOpened hm hvalid unseen below
    exact hopened.trans (.instantiatePeerStream hopened.inv _ _)

theorem SameLimits.handleNewGroupedStreamCallbacks (hm : m.Inv)
    (hhandle : m.handleNewGroupedStreamCallbacks = .ok m') : SameLimits m m' := by
  obtain ⟨entries, -, -, rfl⟩ := announceAll_eq_ok hhandle
  exact .of_remote hm rfl rfl rfl rfl

/-! ### Closing a stream -/

theorem sendStreamLimitUpdate_spec (d : StreamDirectionality) :
    m.sendStreamLimitUpdate d = { m with
      remote := Function.update m.remote d { m.remote d with remoteStreamLimitUpdate := none }
      history.advertised := Function.update m.history.advertised d
        ((m.remote d).remoteStreamLimitUpdate.toList ++ m.history.advertised d) } := by
  unfold sendStreamLimitUpdate
  cases hupdate : (m.remote d).remoteStreamLimitUpdate with
  | none =>
    have hsame : { m.remote d with remoteStreamLimitUpdate := none } = m.remote d := by
      rw [← hupdate]
    dsimp only
    rw [hsame, Option.toList_none, List.nil_append, Function.update_eq_self,
      Function.update_eq_self]
  | some update => rfl

/-- Every pending update is sent. -/
theorem maybeSendStreamLimitUpdates_eq :
    m.maybeSendStreamLimitUpdates = { m with
      remote := fun d => { m.remote d with remoteStreamLimitUpdate := none }
      history.advertised := fun d =>
        (m.remote d).remoteStreamLimitUpdate.toList ++ m.history.advertised d } := by
  unfold maybeSendStreamLimitUpdates
  rw [sendStreamLimitUpdate_spec, sendStreamLimitUpdate_spec]
  simp only [PeerStreams.mk.injEq, PeerStreamHistory.mk.injEq, true_and]
  constructor <;>
  · funext d
    cases d <;> simp

/-- The manager after a stream has been removed. -/
def removed (m : PeerStreams) (streamId : Nat) (r : RemoteStreams) (credit : StreamCredit) :
    PeerStreams :=
  { m.setRemote (getStreamDirectionality streamId) r with
    streams := m.streams.filter (·.1 != streamId)
    history.closed := streamId :: m.history.closed
    history.credits := credit :: m.history.credits }

theorem removeClosedStream_cases (hremove : m.removeClosedStream streamId = .ok m') :
    m' = m ∨ ∃ groupId r credit, m.streams.lookup streamId = some groupId ∧
      (m.remote (getStreamDirectionality streamId)).removeClosedStream
        m.streamLimitWindowingFraction streamId = .ok (r, credit) ∧
      m' = m.removed streamId r credit := by
  unfold removeClosedStream at hremove
  split at hremove
  · cases hremove
    exact .inl rfl
  · rename_i groupId hfind
    rw [except_bind_eq_ok] at hremove
    obtain ⟨⟨r, credit⟩, hr, hremove⟩ := hremove
    cases hremove
    exact .inr ⟨groupId, r, credit, hfind, hr, rfl⟩

theorem Inv.removed {r : RemoteStreams} {credit : StreamCredit} (hm : m.Inv)
    (hremove : (m.remote (getStreamDirectionality streamId)).removeClosedStream
      m.streamLimitWindowingFraction streamId = .ok (r, credit)) :
    (m.removed streamId r credit).maybeSendStreamLimitUpdates.Inv := by
  obtain ⟨hinv, hinitial⟩ := RemoteStreams.removeClosedStream_inv (hm.remote _) hremove
  rw [maybeSendStreamLimitUpdates_eq]
  have hremote : ∀ d, ((m.setRemote (getStreamDirectionality streamId) r).remote d).Inv :=
    forall_setRemote (P := fun _ r => r.Inv) hinv fun d _ => hm.remote d
  have hinitial' : ∀ d, ((m.setRemote (getStreamDirectionality streamId) r).remote d
      ).initialRemoteStreamId = initialRemoteStreamId m.nodeType d :=
    forall_setRemote (P := fun d r => r.initialRemoteStreamId = initialRemoteStreamId m.nodeType d)
      (hinitial.trans (hm.initial _)) fun d _ => hm.initial d
  exact ⟨fun d => ⟨(hremote d).next, (hremote d).max, (hremote d).bounded, (hremote d).ordered,
    (hremote d).unopened, (hremote d).limit⟩, hinitial', fun _ => rfl⟩

/-- What is kept for the streams of one kind, with an update that is still to be sent. -/
def KindKept (r : RemoteStreams) (advertised : List Nat) : Prop :=
  (r.remoteStreamLimitUpdate.toList ++ advertised).Pairwise (· ≥ ·) ∧
    (r.remoteStreamLimitUpdate.toList ++ advertised).head? = some r.maxStreams ∧
    r.usable ≤ r.advertisedInitialMaxStreams

theorem LimitsKept.removed {r : RemoteStreams} {credit : StreamCredit} (hm : m.Inv)
    (hkept : m.LimitsKept)
    (hremove : (m.remote (getStreamDirectionality streamId)).removeClosedStream
      m.streamLimitWindowingFraction streamId = .ok (r, credit)) :
    (m.removed streamId r credit).maybeSendStreamLimitUpdates.LimitsKept := by
  obtain ⟨hwrap, husable, hle, htold⟩ := RemoteStreams.removeClosedStream_kept (hm.remote _)
    (hkept.usable _) (hm.told _) hremove
  have hold : ∀ d, KindKept (m.remote d) (m.history.advertised d) := by
    intro d
    unfold KindKept
    rw [hm.told d]
    exact ⟨hkept.rising d, hkept.enforced d, hkept.usable d⟩
  have hnew : KindKept r (m.history.advertised (getStreamDirectionality streamId)) := by
    generalize getStreamDirectionality streamId = d at *
    obtain ⟨hrising, henforced⟩ := And.intro (hkept.rising d) (hkept.enforced d)
    obtain ⟨limits, hlimits⟩ := List.head?_eq_some_iff.mp henforced
    unfold KindKept
    rcases htold with ⟨hnone, hmax⟩ | hsome
    · rw [hnone, hmax]
      exact ⟨hrising, henforced, husable⟩
    · rw [hsome]
      refine ⟨List.pairwise_cons.mpr ⟨fun n hn => ?_, hrising⟩, rfl, husable⟩
      rw [hlimits] at hn hrising
      rcases List.mem_cons.mp hn with rfl | hn
      · exact hle
      · exact ((List.pairwise_cons.mp hrising).1 n hn).trans hle
  have hall : ∀ d, KindKept ((m.setRemote (getStreamDirectionality streamId) r).remote d)
      (m.history.advertised d) :=
    forall_setRemote (P := fun d r => KindKept r (m.history.advertised d)) hnew fun d _ => hold d
  rw [maybeSendStreamLimitUpdates_eq]
  refine ⟨?_, fun d => (hall d).1, fun d => (hall d).2.1, fun d => (hall d).2.2⟩
  intro c hc
  rcases List.mem_cons.mp hc with rfl | hc
  · exact hwrap
  · exact hkept.noWrap c hc

/-! ### Steps -/

theorem SameLimits.maybeSend (hm : m.Inv) : SameLimits m m.maybeSendStreamLimitUpdates := by
  rw [maybeSendStreamLimitUpdates_eq]
  have hnone : ∀ d, { m.remote d with remoteStreamLimitUpdate := none } = m.remote d := by
    intro d
    rw [← hm.told d]
  refine .of_remote hm (funext hnone) rfl rfl ?_
  funext d
  dsimp only
  rw [hm.told d]
  rfl

theorem Inv.ticket {bidi uni : Nat} (hm : m.Inv) (haccepted : m.ticketAccepted bidi uni = true) :
    (m.updateTransportParamsFromTicket bidi uni).Inv := by
  obtain ⟨hbidi, huni⟩ := Bool.and_eq_true_iff.mp haccepted
  have hlimit : ∀ d, ((m.updateTransportParamsFromTicket bidi uni).remote d).Inv := by
    intro d
    have hr := hm.remote d
    cases d with
    | bidirectional =>
      exact ⟨hr.next, hr.max, hr.bounded, hr.ordered, hr.unopened,
        (of_decide_eq_true hbidi).trans hr.limit⟩
    | unidirectional =>
      exact ⟨hr.next, hr.max, hr.bounded, hr.ordered, hr.unopened,
        (of_decide_eq_true huni).trans hr.limit⟩
  refine ⟨hlimit, fun d => ?_, fun d => ?_⟩
  · cases d <;> exact hm.initial _
  · cases d <;> exact hm.told _

theorem LimitsKept.ticket {bidi uni : Nat} (hkept : m.LimitsKept) :
    (m.updateTransportParamsFromTicket bidi uni).LimitsKept ↔
      (m.remote .bidirectional).usable ≤ bidi ∧ (m.remote .unidirectional).usable ≤ uni := by
  constructor
  · intro hkept'
    exact ⟨hkept'.usable .bidirectional, hkept'.usable .unidirectional⟩
  · rintro ⟨hbidi, huni⟩
    refine ⟨hkept.noWrap, hkept.rising, fun d => ?_, fun d => ?_⟩
    · cases d <;> exact hkept.enforced _
    · cases d with
      | bidirectional => exact hbidi
      | unidirectional => exact huni

/-- What a step does to the limits. -/
theorem step_cases {e : PeerStreamEvent} (hm : m.Inv) (hstep : m.step e = .ok m') :
    SameLimits m m' ∨
      (∃ streamId r credit, e = .close streamId ∧
        (m.remote (getStreamDirectionality streamId)).removeClosedStream
          m.streamLimitWindowingFraction streamId = .ok (r, credit) ∧
        m' = (m.removed streamId r credit).maybeSendStreamLimitUpdates) ∨
      ∃ bidi uni, e = .ticket bidi uni ∧ m.ticketAccepted bidi uni = true ∧
        m' = m.updateTransportParamsFromTicket bidi uni := by
  cases e with
  | frame streamId streamGroupId =>
    simp only [step, except_bind_eq_ok] at hstep
    obtain ⟨⟨stream, got⟩, hget, hstep⟩ := hstep
    cases hstep
    have hsame := SameLimits.getOrCreatePeerStream hm hget
    exact .inl (hsame.trans (.of_remote hsame.inv rfl rfl rfl rfl))
  | close streamId =>
    simp only [step, except_bind_eq_ok] at hstep
    obtain ⟨removed, hremove, hstep⟩ := hstep
    cases hstep
    obtain rfl | ⟨-, r, credit, -, hr, rfl⟩ := removeClosedStream_cases hremove
    · exact .inl (.maybeSend hm)
    · exact .inr (.inl ⟨streamId, r, credit, rfl, hr, rfl⟩)
  | newStreams =>
    cases hstep
    exact .inl (.of_remote hm rfl rfl rfl rfl)
  | newGroupedStreams => exact .inl (.handleNewGroupedStreamCallbacks hm hstep)
  | ticket bidi uni =>
    rw [step, Except.ok.injEq] at hstep
    split at hstep
    · rename_i haccepted
      exact .inr (.inr ⟨bidi, uni, rfl, haccepted, hstep.symm⟩)
    · rw [← hstep]
      exact .inl (.refl hm)
  | setStreamLimitWindowingFraction fraction =>
    rw [step, Except.ok.injEq] at hstep
    rw [← hstep]
    split
    · exact .inl (.of_remote hm rfl rfl rfl rfl)
    · exact .inl (.refl hm)

theorem step_inv {e : PeerStreamEvent} (hm : m.Inv) (hstep : m.step e = .ok m') : m'.Inv := by
  obtain hsame | ⟨streamId, r, credit, -, hr, rfl⟩ | ⟨bidi, uni, -, haccepted, rfl⟩ :=
    step_cases hm hstep
  · exact hsame.inv
  · exact hm.removed hr
  · exact hm.ticket haccepted

theorem step_kept {e : PeerStreamEvent} (hm : m.Inv) (hkept : m.LimitsKept)
    (hcovers : m.TicketCovers e) (hstep : m.step e = .ok m') : m'.LimitsKept := by
  obtain hsame | ⟨streamId, r, credit, -, hr, rfl⟩ | ⟨bidi, uni, rfl, haccepted, rfl⟩ :=
    step_cases hm hstep
  · exact hkept.of_same hsame
  · exact hkept.removed hm hr
  · exact hkept.ticket.mpr (hcovers haccepted)

theorem step_not_kept {e : PeerStreamEvent} (hkept : m.LimitsKept) (hcovers : ¬ m.TicketCovers e) :
    ∃ m', m.step e = .ok m' ∧ ¬ m'.LimitsKept := by
  cases e with
  | ticket bidi uni =>
    obtain ⟨haccepted, hless⟩ := Classical.not_imp.mp hcovers
    refine ⟨m.updateTransportParamsFromTicket bidi uni, ?_, fun h => hless (hkept.ticket.mp h)⟩
    rw [step, if_pos haccepted]
  | _ => exact absurd trivial hcovers

theorem new_kept {nodeType : QuicNodeType} {settings : PeerStreamSettings}
    (hnew : new nodeType settings = .ok m) : m.Inv ∧ m.LimitsKept := by
  simp only [new, except_bind_eq_ok] at hnew
  obtain ⟨bidi, hbidi, uni, huni, hnew⟩ := hnew
  cases hnew
  have hbidi' := RemoteStreams.new_spec hbidi
  have huni' := RemoteStreams.new_spec huni
  refine ⟨⟨?_, ?_, ?_⟩, ⟨List.forall_mem_nil _, ?_, ?_, ?_⟩⟩
  all_goals
    intro d
    cases d with
    | bidirectional => simp [hbidi']
    | unidirectional => simp [huni']

end PeerStreams

/-- In every run the limits on the peer's streams are kept in all states exactly when no accepted
ticket allows fewer streams than the peer may already use. -/
theorem streamLimits_kept_iff {nodeType : QuicNodeType} {settings : PeerStreamSettings}
    {start : PeerStreams} (hstart : PeerStreams.new nodeType settings = .ok start)
    (events : List PeerStreamEvent) :
    (∀ fs m, fs <+: events → fs.foldlM PeerStreams.step start = .ok m → m.LimitsKept) ↔
      Meets PeerStreams.step PeerStreams.TicketCovers start events := by
  obtain ⟨hinv, hkept⟩ := PeerStreams.new_kept hstart
  exact never_bad_iff_meets (fun m e m' hm hstep => PeerStreams.step_inv hm hstep)
    (fun m e m' hm hkept hcovers hstep => PeerStreams.step_kept hm hkept hcovers hstep)
    (fun m e _ hkept hcovers => PeerStreams.step_not_kept hkept hcovers) hinv hkept

/-- One of four streams has been used and closed when a ticket allows three. -/
theorem streamLimits_kept_ticketOfThree :
    ∃ start, PeerStreams.new .server ⟨4, 4, 0, false⟩ = .ok start ∧ ∀ fs m,
      fs <+: [.frame 0 none, .close 0, .ticket 3 4, .frame 4 none, .close 4] →
        fs.foldlM PeerStreams.step start = .ok m → m.LimitsKept := by
  refine ⟨_, rfl, ?_⟩
  refine (@streamLimits_kept_iff .server ⟨4, 4, 0, false⟩ _ rfl _).mpr ?_
  decide +kernel

/-- The settings allow four streams and a ticket allows one. When a stream is closed, the peer is
told a limit of two, and four are still enforced. -/
theorem streamLimits_ticketOfOne :
    ∃ start m, PeerStreams.new .server ⟨4, 4, 0, false⟩ = .ok start ∧
      [.ticket 1 4, .frame 0 none, .close 0].foldlM PeerStreams.step start = .ok m ∧
      m.history.credits.map (·.streamCredit) = [2 ^ 64 - 2] ∧
      m.history.advertised .bidirectional = [2, 4] ∧ (m.remote .bidirectional).maxStreams = 4 ∧
      ¬ m.LimitsKept := by
  refine ⟨_, _, rfl, rfl, by decide +kernel, by decide +kernel, by decide +kernel, fun hkept => ?_⟩
  exact absurd (hkept.enforced .bidirectional) (by decide +kernel)

end MasqueQuic
