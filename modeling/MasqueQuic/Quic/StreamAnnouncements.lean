/-
Which streams of the peer are open, and which the application is told of.

A stream is seen when a frame has named it or a higher stream of its kind. Unless
`notifyOnNewStreamsExplicitly` is set, streams are put on the lists for the application when they
are opened, by the group of the frame that opened them; if it is set, when they are instantiated.
-/

import MasqueQuic.Quic.StreamLimits

namespace MasqueQuic

def isRemoteStreamGroup (nodeType : QuicNodeType) (id : StreamGroupId) : Bool :=
  match nodeType with
  | .client => isServerStreamGroup id
  | .server => isClientStreamGroup id

namespace PeerStreams

variable {m m' : PeerStreams} {streamId : Nat} {streamGroupId : Option StreamGroupId}

def Seen (m : PeerStreams) (id : Nat) : Prop :=
  isRemoteStream m.nodeType id = true ∧
    ∃ n ∈ m.history.named, getStreamDirectionality n = getStreamDirectionality id ∧ id ≤ n

/-- The streams that are put on a list, in this order and with the group that decides on which. -/
def announcements (m : PeerStreams) : List (StreamId × Option StreamGroupId) :=
  if m.notifyOnNewStreamsExplicitly then m.history.instantiated
  else m.history.opened.map fun o => (o.id, o.groupId)

theorem announcements_explicit (h : m.notifyOnNewStreamsExplicitly = true) :
    m.announcements = m.history.instantiated := if_pos h

theorem announcements_implicit (h : ¬ m.notifyOnNewStreamsExplicitly = true) :
    m.announcements = m.history.opened.map fun o => (o.id, o.groupId) := if_neg h

/-- What the application has been told and is going to be told through one of the lists. -/
def listed (m : PeerStreams) (grouped : Bool) : List StreamId :=
  (m.history.announced.filter (·.2.isSome == grouped)).map Prod.fst ++
    if grouped then m.newGroupedPeerStreams else m.newPeerStreams

/-- The streams that have been seen are open until they are closed, and have been opened in
increasing order and instantiated at most once. -/
structure Orderly (m : PeerStreams) : Prop where
  below : ∀ id : Nat, isRemoteStream m.nodeType id = true →
    (id < (m.remote (getStreamDirectionality id)).nextAcceptablePeerStreamId ↔ m.Seen id)
  isOpen : ∀ d (id : Nat), id ∈ (m.remote d).openPeerStreams ↔
    getStreamDirectionality id = d ∧ m.Seen id ∧ id ∉ m.history.closed
  opened : ∀ id : Nat, id ∈ m.history.opened.map (·.id) ↔ m.Seen id
  increasing : ∀ d, ((m.history.opened.map (·.id)).filter
    (getStreamDirectionality · == d)).Pairwise (· < ·)
  instantiated : (m.history.instantiated.map Prod.fst).Nodup
  streams : ∀ p ∈ m.streams, p ∈ m.history.instantiated
  groups : ∀ p ∈ m.history.announced, p.2.isSome = true → p ∈ m.history.instantiated

/-- A stream that its own frame opened has the group of that frame. -/
def OwnGroup (m : PeerStreams) : Prop :=
  ∀ o ∈ m.history.opened, o.id = o.namedId → (o.id, o.groupId) ∈ m.history.instantiated

/-- No stream is announced twice. By default all streams that have been seen are, in increasing
order on each list, and those that their own frame opened on the list of their group; with explicit
notifications, those that have been instantiated, in this order and on the list of their group. -/
structure Announced (m : PeerStreams) : Prop where
  once : (m.listed false ++ m.listed true).Nodup
  seen : ¬ m.notifyOnNewStreamsExplicitly = true →
    ∀ id : Nat, id ∈ m.listed false ++ m.listed true ↔ m.Seen id
  increasing : ¬ m.notifyOnNewStreamsExplicitly = true → ∀ grouped d,
    ((m.listed grouped).filter (getStreamDirectionality · == d)).Pairwise (· < ·)
  own : ¬ m.notifyOnNewStreamsExplicitly = true → ∀ o ∈ m.history.opened, o.id = o.namedId →
    o.id ∈ m.listed o.groupId.isSome
  explicit : m.notifyOnNewStreamsExplicitly = true → ∀ grouped, m.listed grouped =
    (m.history.instantiated.filter (·.2.isSome == grouped)).map Prod.fst

structure Tracked (m : PeerStreams) : Prop extends Orderly m where
  listed : ∀ grouped, m.listed grouped =
    (m.announcements.filter (·.2.isSome == grouped)).map Prod.fst
  inv : m.Inv
  closed : ∀ id ∈ m.history.closed, m.Seen id
  live : ∀ p ∈ m.streams, p.1 ∉ m.history.closed
  kept : ∀ p ∈ m.history.instantiated, m.Seen p.1 ∧ (p ∈ m.streams ∨ p.1 ∈ m.history.closed)

/-! ### Instantiating -/

theorem Tracked.open_of_stream (hm : m.Tracked) {groupId : Option StreamGroupId}
    (hfind : m.streams.lookup streamId = some groupId) :
    (streamId, groupId) ∈ m.streams ∧
      streamId ∈ (m.remote (getStreamDirectionality streamId)).openPeerStreams := by
  obtain ⟨before, after, hsplit, -⟩ := List.lookup_eq_some_iff.mp hfind
  have hmem : (streamId, groupId) ∈ m.streams := by
    rw [hsplit]
    exact List.mem_append_right _ List.mem_cons_self
  refine ⟨hmem, (hm.isOpen _ _).mpr ⟨rfl, ?_, hm.live _ hmem⟩⟩
  exact (hm.kept _ (hm.streams _ hmem)).1

theorem Tracked.not_instantiated (hm : m.Tracked) (habsent : m.streams.lookup streamId = none)
    (hopen : streamId ∈ (m.remote (getStreamDirectionality streamId)).openPeerStreams) :
    streamId ∉ m.history.instantiated.map Prod.fst := by
  intro hmem
  obtain ⟨p, hp, rfl⟩ := List.mem_map.mp hmem
  rcases (hm.kept p hp).2 with hstream | hclosed
  · exact absurd rfl (bne_iff_ne.mp (List.lookup_eq_none_iff.mp habsent p hstream))
  · exact ((hm.isOpen _ _).mp hopen).2.2 hclosed

theorem filter_listedFor (grouped : Bool) (groupId : Option StreamGroupId) (ids : List StreamId) :
    ((ids.map fun id => (id, groupId)).filter (·.2.isSome == grouped)).map Prod.fst =
      listedFor grouped groupId ids := by
  unfold listedFor
  rw [List.filter_map, List.map_map]
  split
  · rename_i hgroup
    rw [List.filter_eq_self.mpr fun id _ => by simpa using hgroup]
    exact List.map_id ids
  · rename_i hgroup
    rw [List.filter_eq_nil_iff.mpr fun id _ => by simpa using hgroup]
    rfl

/-- Streams that go to a list are on it. -/
theorem listed_of_push {ids : List StreamId}
    (hlisted : ∀ grouped, m.listed grouped =
      (m.announcements.filter (·.2.isSome == grouped)).map Prod.fst)
    (hannounced : m'.history.announced = m.history.announced)
    (hnew : m'.newPeerStreams = m.newPeerStreams ++ listedFor false streamGroupId ids)
    (hgrouped :
      m'.newGroupedPeerStreams = m.newGroupedPeerStreams ++ listedFor true streamGroupId ids)
    (hpush : m'.announcements = m.announcements ++ ids.map fun id => (id, streamGroupId))
    (grouped : Bool) :
    m'.listed grouped = (m'.announcements.filter (·.2.isSome == grouped)).map Prod.fst := by
  rw [hpush, List.filter_append, List.map_append, filter_listedFor, ← hlisted grouped]
  unfold listed
  rw [hannounced, hnew, hgrouped]
  cases grouped <;> simp

theorem Tracked.instantiatePeerStream (hm : m.Tracked)
    (habsent : m.streams.lookup streamId = none)
    (hopen : streamId ∈ (m.remote (getStreamDirectionality streamId)).openPeerStreams) :
    (m.instantiatePeerStream streamId streamGroupId).Tracked := by
  have hnew := hm.not_instantiated habsent hopen
  obtain ⟨-, hseen, hclosed⟩ := (hm.isOpen _ _).mp hopen
  have hinv := (SameLimits.instantiatePeerStream hm.inv streamId streamGroupId).inv
  obtain ⟨new, seen, heq⟩ := m.instantiatePeerStream_eq streamId streamGroupId
  rw [heq] at hinv ⊢
  exact {
    below := hm.below
    isOpen := hm.isOpen
    opened := hm.opened
    increasing := hm.increasing
    instantiated := by
      dsimp only
      rw [List.map_append, List.nodup_append]
      refine ⟨hm.instantiated, List.nodup_singleton _, fun a ha b hb hab => ?_⟩
      rw [hab, List.mem_singleton.mp hb] at ha
      exact hnew ha
    streams := by
      intro p hp
      rcases List.mem_cons.mp hp with rfl | hp
      · exact List.mem_append_right _ List.mem_cons_self
      · exact List.mem_append_left _ (hm.streams p hp)
    listed := by
      refine listed_of_push hm.listed rfl rfl rfl ?_
      by_cases hexplicit : m.notifyOnNewStreamsExplicitly = true
      · rw [announcements_explicit hexplicit, if_pos hexplicit]
        exact announcements_explicit hexplicit
      · rw [announcements_implicit hexplicit, if_neg hexplicit, List.map_nil, List.append_nil]
        refine announcements_implicit ?_
        exact hexplicit
    groups := fun p hp hgroup => List.mem_append_left _ (hm.groups p hp hgroup)
    inv := hinv
    closed := hm.closed
    live := by
      intro p hp
      rcases List.mem_cons.mp hp with rfl | hp
      · exact hclosed
      · exact hm.live p hp
    kept := by
      intro p hp
      rcases List.mem_append.mp hp with hp | hp
      · obtain ⟨hp, hlive⟩ := hm.kept p hp
        exact ⟨hp, hlive.imp_left (List.mem_cons_of_mem _)⟩
      · rw [List.mem_singleton.mp hp]
        exact ⟨hseen, .inl List.mem_cons_self⟩ }

/-! ### Opening -/

theorem mem_newStreamIds {r : RemoteStreams} {id : Nat}
    (hunseen : r.nextAcceptablePeerStreamId ≤ streamId) :
    id ∈ r.newStreamIds streamId ↔ r.nextAcceptablePeerStreamId ≤ id ∧ id ≤ streamId ∧
      id % kStreamIncrement = r.nextAcceptablePeerStreamId % kStreamIncrement := by
  unfold RemoteStreams.newStreamIds
  rw [List.mem_range']
  unfold kStreamIncrement
  constructor
  · rintro ⟨i, hi, rfl⟩
    omega
  · rintro ⟨hle, hle', hkind⟩
    exact ⟨(id - r.nextAcceptablePeerStreamId) / 4, by omega, by omega⟩

/-- The state once the streams up to `streamId` are open and the frame is recorded. -/
def openedAndNamed (m : PeerStreams) (streamId : Nat) (streamGroupId : Option StreamGroupId) :
    PeerStreams :=
  let r := m.remote (getStreamDirectionality streamId)
  let ids := r.newStreamIds streamId
  let listed := if m.notifyOnNewStreamsExplicitly then [] else ids
  { m.setRemote (getStreamDirectionality streamId) (r.openUpTo streamId) with
    newPeerStreams := m.newPeerStreams ++ listedFor false streamGroupId listed
    newGroupedPeerStreams := m.newGroupedPeerStreams ++ listedFor true streamGroupId listed
    history.named := streamId :: m.history.named
    history.opened := m.history.opened ++ ids.map fun id => ⟨id, streamId, streamGroupId⟩ }

theorem seen_openedAndNamed (id : Nat) :
    (m.openedAndNamed streamId streamGroupId).Seen id ↔ m.Seen id ∨
      isRemoteStream m.nodeType id = true ∧
        getStreamDirectionality streamId = getStreamDirectionality id ∧ id ≤ streamId := by
  unfold openedAndNamed Seen
  simp only [setRemote, List.mem_cons, exists_eq_or_imp]
  rw [and_or_left, or_comm]

theorem remote_openedAndNamed (d : StreamDirectionality) :
    (m.openedAndNamed streamId streamGroupId).remote d =
      if d = getStreamDirectionality streamId then (m.remote d).openUpTo streamId
      else m.remote d := by
  change Function.update _ _ _ d = _
  rw [Function.update_apply]
  split
  · rename_i hd
    rw [hd]
  · rfl

theorem ids_openedAndNamed :
    (m.openedAndNamed streamId streamGroupId).history.opened.map (·.id) =
      m.history.opened.map (·.id) ++
        (m.remote (getStreamDirectionality streamId)).newStreamIds streamId := by
  unfold openedAndNamed
  dsimp only
  rw [List.map_append, List.map_map]
  exact congrArg _ (List.map_id _)

section Opening

variable (streamGroupId) (hm : m.Tracked) (hremote : isRemoteStream m.nodeType streamId = true)
  (hunseen : (m.remote (getStreamDirectionality streamId)).nextAcceptablePeerStreamId ≤ streamId)

include hm in
theorem Tracked.lt_next {id : Nat} (hseen : m.Seen id) :
    id < (m.remote (getStreamDirectionality id)).nextAcceptablePeerStreamId :=
  (hm.below id hseen.1).mpr hseen

include hm hunseen in
/-- The ids that are opened are those of the kind between the two bounds. -/
theorem Tracked.mem_opened {id : Nat} :
    id ∈ (m.remote (getStreamDirectionality streamId)).newStreamIds streamId ↔
      (isRemoteStream m.nodeType id = true ∧
        getStreamDirectionality id = getStreamDirectionality streamId) ∧ ¬ m.Seen id ∧
      id ≤ streamId := by
  rw [mem_newStreamIds hunseen, (hm.inv.remote _).next, hm.inv.initial, kind_iff]
  constructor
  · rintro ⟨hle, hle', hkind⟩
    refine ⟨hkind, fun hseen => ?_, hle'⟩
    have := hm.lt_next hseen
    rw [hkind.2] at this
    omega
  · rintro ⟨hkind, hseen, hle'⟩
    refine ⟨?_, hle', hkind⟩
    rw [← hm.below id hkind.1, hkind.2] at hseen
    omega

include hremote in
theorem le_of_lt_add {id : Nat} (hid : isRemoteStream m.nodeType id = true)
    (hd : getStreamDirectionality id = getStreamDirectionality streamId) :
    id < streamId + kStreamIncrement ↔ id ≤ streamId := by
  have hkind := kind_iff.mpr ⟨hremote, rfl⟩
  have hkind' := kind_iff.mpr ⟨hid, hd⟩
  unfold kStreamIncrement at *
  omega

include hm hremote hunseen in
theorem Tracked.below_opened (id : Nat) (hid : isRemoteStream m.nodeType id = true) :
    id < ((m.openedAndNamed streamId streamGroupId).remote
        (getStreamDirectionality id)).nextAcceptablePeerStreamId ↔
      (m.openedAndNamed streamId streamGroupId).Seen id := by
  rw [seen_openedAndNamed, remote_openedAndNamed]
  split
  · rename_i hd
    change id < streamId + kStreamIncrement ↔ _
    rw [le_of_lt_add hremote hid hd]
    constructor
    · intro hle
      exact .inr ⟨hid, hd.symm, hle⟩
    · rintro (hseen | ⟨-, -, hle⟩)
      · have := hm.lt_next hseen
        rw [hd] at this
        omega
      · exact hle
  · rename_i hd
    rw [hm.below id hid]
    constructor
    · exact .inl
    · rintro (hseen | ⟨-, hd', -⟩)
      · exact hseen
      · exact absurd hd'.symm hd

include hm hunseen in
theorem Tracked.isOpen_opened (d : StreamDirectionality) (id : Nat) :
    id ∈ ((m.openedAndNamed streamId streamGroupId).remote d).openPeerStreams ↔
      getStreamDirectionality id = d ∧ (m.openedAndNamed streamId streamGroupId).Seen id ∧
        id ∉ m.history.closed := by
  rw [seen_openedAndNamed, remote_openedAndNamed]
  split
  · rename_i hd
    subst hd
    change id ∈ _ ∪ _ ↔ _
    rw [Finset.mem_union, List.mem_toFinset, hm.isOpen, hm.mem_opened hunseen]
    have hclosed := hm.closed id
    constructor
    · rintro (⟨hd, hseen, hopen⟩ | ⟨⟨hid, hd⟩, hseen, hle⟩)
      · exact ⟨hd, .inl hseen, hopen⟩
      · exact ⟨hd, .inr ⟨hid, hd.symm, hle⟩, fun h => hseen (hclosed h)⟩
    · rintro ⟨hd, hseen | ⟨hid, -, hle⟩, hopen⟩
      · exact .inl ⟨hd, hseen, hopen⟩
      · by_cases hseen : m.Seen id
        · exact .inl ⟨hd, hseen, hopen⟩
        · exact .inr ⟨⟨hid, hd⟩, hseen, hle⟩
  · rename_i hd
    rw [hm.isOpen]
    constructor
    · rintro ⟨hd', hseen, hopen⟩
      exact ⟨hd', .inl hseen, hopen⟩
    · rintro ⟨hd', hseen | ⟨-, hd'', -⟩, hopen⟩
      · exact ⟨hd', hseen, hopen⟩
      · exact absurd (hd'.symm.trans hd''.symm) hd

include hm hunseen in
theorem Tracked.increasing_opened (d : StreamDirectionality) :
    (((m.openedAndNamed streamId streamGroupId).history.opened.map (·.id)).filter
      (getStreamDirectionality · == d)).Pairwise (· < ·) := by
  rw [ids_openedAndNamed, List.filter_append, List.pairwise_append]
  refine ⟨hm.increasing d, ?_, ?_⟩
  · exact List.Pairwise.filter _ (List.pairwise_lt_range' _ (by decide))
  · intro a ha b hb
    obtain ⟨ha, had⟩ := List.mem_filter.mp ha
    obtain ⟨hb, hbd⟩ := List.mem_filter.mp hb
    obtain ⟨⟨hb, hbk⟩, hnot, -⟩ := (hm.mem_opened hunseen).mp hb
    have hlt := hm.lt_next ((hm.opened a).mp ha)
    rw [← hm.below b hb, hbk] at hnot
    rw [beq_iff_eq] at had hbd
    rw [had, ← hbd, hbk] at hlt
    exact Nat.lt_of_lt_of_le hlt (Nat.le_of_not_lt hnot)

end Opening

theorem Tracked.openedAndNamed (hm : m.Tracked)
    (hvalid : m.validateStream streamId streamGroupId = .ok ())
    (hunseen :
      (m.remote (getStreamDirectionality streamId)).nextAcceptablePeerStreamId ≤ streamId)
    (hbelow : streamId < (m.remote (getStreamDirectionality streamId)).maxRemoteStreamId) :
    (m.openedAndNamed streamId streamGroupId).Tracked := by
  have hremote := isRemoteStream_of_validateStream hvalid
  have hopened := (SameLimits.withOpened hm.inv hvalid hunseen hbelow).inv
  rw [withOpened_eq] at hopened
  have hseen : ∀ id, m.Seen id → (m.openedAndNamed streamId streamGroupId).Seen id :=
    fun id hid => (seen_openedAndNamed id).mpr (.inl hid)
  have hbelow' := hm.below_opened streamGroupId hremote hunseen
  have hisOpen := hm.isOpen_opened streamGroupId hunseen
  have hincreasing := hm.increasing_opened streamGroupId hunseen
  have hids := @ids_openedAndNamed m streamId streamGroupId
  have hlisted : ∀ grouped, (m.openedAndNamed streamId streamGroupId).listed grouped =
      ((m.openedAndNamed streamId streamGroupId).announcements.filter
        (·.2.isSome == grouped)).map Prod.fst := by
    refine listed_of_push hm.listed rfl rfl rfl ?_
    by_cases hexplicit : m.notifyOnNewStreamsExplicitly = true
    · rw [announcements_explicit hexplicit, if_pos hexplicit, List.map_nil, List.append_nil]
      refine announcements_explicit ?_
      exact hexplicit
    · rw [announcements_implicit hexplicit, if_neg hexplicit]
      refine Eq.trans (announcements_implicit ?_) ?_
      · exact hexplicit
      unfold PeerStreams.openedAndNamed
      dsimp only
      rw [List.map_append, List.map_map]
      rfl
  have hmem : ∀ id, id ∈ (m.openedAndNamed streamId streamGroupId).history.opened.map (·.id) ↔
      (m.openedAndNamed streamId streamGroupId).Seen id := by
    intro id
    rw [hids, List.mem_append, hm.opened, hm.mem_opened hunseen, seen_openedAndNamed]
    tauto
  exact {
    below := hbelow'
    isOpen := hisOpen
    opened := hmem
    increasing := hincreasing
    instantiated := hm.instantiated
    streams := hm.streams
    listed := hlisted
    groups := hm.groups
    inv := ⟨hopened.remote, hopened.initial, hopened.told⟩
    closed := fun id hid => hseen id (hm.closed id hid)
    live := hm.live
    kept := fun p hp => ⟨hseen _ (hm.kept p hp).1, (hm.kept p hp).2⟩ }

/-! ### Frames -/

/-- A frame for a stream that has been seen changes nothing about what has been seen. -/
theorem Tracked.named (hm : m.Tracked) (hseen : m.Seen streamId) :
    { m with history.named := streamId :: m.history.named }.Tracked := by
  have hsame : ∀ id, { m with history.named := streamId :: m.history.named }.Seen id ↔
      m.Seen id := by
    intro id
    obtain ⟨-, n, hn, hd, hle⟩ := hseen
    unfold Seen
    simp only [List.mem_cons, exists_eq_or_imp]
    constructor
    · rintro ⟨hid, ⟨hd', hle'⟩ | hold⟩
      · exact ⟨hid, n, hn, hd.trans hd', hle'.trans hle⟩
      · exact ⟨hid, hold⟩
    · rintro ⟨hid, hold⟩
      exact ⟨hid, .inr hold⟩
  exact { hm with
    below := fun id hid => (hm.below id hid).trans (hsame id).symm
    isOpen := fun d id => (hm.isOpen d id).trans (by rw [hsame])
    opened := fun id => (hm.opened id).trans (hsame id).symm
    inv := ⟨hm.inv.remote, hm.inv.initial, hm.inv.told⟩
    closed := fun id hid => (hsame id).mpr (hm.closed id hid)
    kept := fun p hp => ⟨(hsame _).mpr (hm.kept p hp).1, (hm.kept p hp).2⟩ }

theorem instantiatePeerStream_named (named : List StreamId) :
    { m.instantiatePeerStream streamId streamGroupId with history.named := named } =
      { m with history.named := named }.instantiatePeerStream streamId streamGroupId := by
  unfold instantiatePeerStream seeGroup pushNewStreams
  cases streamGroupId with
  | none => dsimp only; split <;> rfl
  | some groupId =>
    dsimp only
    split <;> (dsimp only; split <;> rfl)

theorem history_instantiatePeerStream :
    (m.instantiatePeerStream streamId streamGroupId).history =
      { m.history with
        instantiated := m.history.instantiated ++ [(streamId, streamGroupId)] } := by
  obtain ⟨new, seen, heq⟩ := m.instantiatePeerStream_eq streamId streamGroupId
  rw [heq]

theorem seen_instantiatePeerStream {id : Nat} (hseen : m.Seen id) :
    (m.instantiatePeerStream streamId streamGroupId).Seen id := by
  obtain ⟨new, seen, heq⟩ := m.instantiatePeerStream_eq streamId streamGroupId
  rw [heq]
  exact hseen

theorem Tracked.not_open (hm : m.Tracked)
    (hunseen :
      (m.remote (getStreamDirectionality streamId)).nextAcceptablePeerStreamId ≤ streamId) :
    ¬ m.Seen streamId := by
  intro hseen
  have := hm.lt_next hseen
  omega

/-- What a frame leaves behind. -/
theorem Tracked.frame {stream : Option (Option StreamGroupId)} (hm : m.Tracked) (hown : m.OwnGroup)
    (hget : m.getOrCreatePeerStream streamId streamGroupId = .ok (stream, m')) :
    { m' with history.named := streamId :: m'.history.named }.Tracked ∧
      { m' with history.named := streamId :: m'.history.named }.OwnGroup := by
  obtain ⟨hvalid, hgets⟩ := gets_of_getOrCreatePeerStream hget
  have hremote := isRemoteStream_of_validateStream hvalid
  cases hgets with
  | «exists» groupId found =>
    obtain ⟨-, hopen⟩ := hm.open_of_stream found
    exact ⟨hm.named ((hm.isOpen _ _).mp hopen).2.1, hown⟩
  | instantiated absent isOpen =>
    have hseen := ((hm.isOpen _ _).mp isOpen).2.1
    refine ⟨(hm.instantiatePeerStream absent isOpen).named (seen_instantiatePeerStream hseen), ?_⟩
    intro o ho hid
    rw [history_instantiatePeerStream] at ho ⊢
    exact List.mem_append_left _ (hown o ho hid)
  | closed notOpen seen => exact ⟨hm.named ((hm.below _ hremote).mp seen), hown⟩
  | opened absent unseen below =>
    have hopened := hm.openedAndNamed hvalid unseen below
    have hseen : (m.openedAndNamed streamId streamGroupId).Seen streamId :=
      (seen_openedAndNamed _).mpr (.inr ⟨hremote, rfl, Nat.le_refl _⟩)
    have hopen : streamId ∈ ((m.openedAndNamed streamId streamGroupId).remote
        (getStreamDirectionality streamId)).openPeerStreams := by
      refine (hopened.isOpen _ _).mpr ⟨rfl, hseen, fun hclosed => ?_⟩
      exact hm.not_open unseen (hm.closed _ hclosed)
    rw [instantiatePeerStream_named, history_instantiatePeerStream, withOpened_eq]
    refine ⟨hopened.instantiatePeerStream absent hopen, ?_⟩
    intro o ho hid
    rw [history_instantiatePeerStream] at ho ⊢
    rcases List.mem_append.mp ho with ho | ho
    · exact List.mem_append_left _ (hown o ho hid)
    · obtain ⟨id, -, rfl⟩ := List.mem_map.mp ho
      obtain rfl : id = streamId := hid
      exact List.mem_append_right _ List.mem_cons_self

/-! ### Closing -/

theorem RemoteStreams.removeClosedStream_open {r r' : RemoteStreams} {credit : StreamCredit}
    {fraction : Nat} (hr : r.Inv)
    (hremove : r.removeClosedStream fraction streamId = .ok (r', credit)) :
    r'.nextAcceptablePeerStreamId = r.nextAcceptablePeerStreamId ∧
      r'.openPeerStreams = r.openPeerStreams.erase streamId := by
  obtain ⟨-, rfl | ⟨limit, -, -, rfl⟩⟩ := RemoteStreams.removeClosedStream_cases hr hremove
  · exact ⟨rfl, rfl⟩
  · exact ⟨rfl, rfl⟩

theorem Tracked.removed {r : RemoteStreams} {credit : StreamCredit}
    {groupId : Option StreamGroupId} (hm : m.Tracked)
    (hfind : m.streams.lookup streamId = some groupId)
    (hremove : (m.remote (getStreamDirectionality streamId)).removeClosedStream
      m.streamLimitWindowingFraction streamId = .ok (r, credit)) :
    (m.removed streamId r credit).maybeSendStreamLimitUpdates.Tracked := by
  have hinv := hm.inv.removed hremove
  obtain ⟨hnext, hopen⟩ := RemoteStreams.removeClosedStream_open (hm.inv.remote _) hremove
  have hseen := ((hm.isOpen _ _).mp (hm.open_of_stream hfind).2).2.1
  have hnexts : ∀ d, ((m.setRemote (getStreamDirectionality streamId) r).remote d
      ).nextAcceptablePeerStreamId = (m.remote d).nextAcceptablePeerStreamId :=
    forall_setRemote (P := fun d r => r.nextAcceptablePeerStreamId =
      (m.remote d).nextAcceptablePeerStreamId) hnext fun _ _ => rfl
  have hopens : ∀ d, ((m.setRemote (getStreamDirectionality streamId) r).remote d
      ).openPeerStreams = (m.remote d).openPeerStreams.erase streamId := by
    refine forall_setRemote (P := fun d r => r.openPeerStreams =
      (m.remote d).openPeerStreams.erase streamId) hopen fun d hd => ?_
    rw [Finset.erase_eq_of_notMem]
    intro hmem
    exact hd ((hm.isOpen d _).mp hmem).1.symm
  rw [maybeSendStreamLimitUpdates_eq] at hinv ⊢
  exact { hm with
    below := fun id hid => by
      change id < ((m.setRemote _ r).remote _).nextAcceptablePeerStreamId ↔ _
      rw [hnexts]
      exact hm.below id hid
    isOpen := fun d id => by
      change id ∈ ((m.setRemote _ r).remote d).openPeerStreams ↔ _ ∧ m.Seen id ∧
        id ∉ streamId :: m.history.closed
      rw [hopens, Finset.mem_erase, hm.isOpen, List.mem_cons]
      tauto
    inv := hinv
    streams := fun p hp => hm.streams p (List.mem_of_mem_filter hp)
    closed := fun id hid => by
      rcases List.mem_cons.mp hid with rfl | hid
      · exact hseen
      · exact hm.closed id hid
    live := fun p hp hclosed => by
      obtain ⟨hp, hne⟩ := List.mem_filter.mp hp
      rcases List.mem_cons.mp hclosed with heq | hclosed
      · exact bne_iff_ne.mp hne heq
      · exact hm.live p hp hclosed
    kept := fun p hp => by
      obtain ⟨hseen, hlive⟩ := hm.kept p hp
      refine ⟨hseen, ?_⟩
      by_cases hp : p.1 = streamId
      · exact .inr (List.mem_cons.mpr (.inl hp))
      · rcases hlive with hlive | hclosed
        · exact .inl (List.mem_filter.mpr ⟨hlive, bne_iff_ne.mpr hp⟩)
        · exact .inr (List.mem_cons_of_mem _ hclosed) }

/-! ### Callbacks -/

theorem Tracked.handleNewStreamCallbacks (hm : m.Tracked) :
    m.handleNewStreamCallbacks.Tracked := by
  have hlisted : ∀ grouped, m.handleNewStreamCallbacks.listed grouped = m.listed grouped := by
    intro grouped
    have hids := filter_listedFor grouped none m.newPeerStreams
    unfold PeerStreams.listed PeerStreams.handleNewStreamCallbacks
    dsimp only
    rw [List.filter_append, List.map_append, hids]
    cases grouped with
    | false => exact List.append_nil _
    | true => exact congrArg (· ++ _) (List.append_nil _)
  exact { hm with
    listed := fun grouped => (hlisted grouped).trans (hm.listed grouped)
    inv := ⟨hm.inv.remote, hm.inv.initial, hm.inv.told⟩
    groups := fun p hp hgroup => by
      rcases List.mem_append.mp hp with hp | hp
      · exact hm.groups p hp hgroup
      · obtain ⟨id, -, rfl⟩ := List.mem_map.mp hp
        cases hgroup }

theorem Tracked.handleNewGroupedStreamCallbacks (hm : m.Tracked)
    (hhandle : m.handleNewGroupedStreamCallbacks = .ok m') :
    m'.Tracked ∧ m'.history.opened = m.history.opened ∧
      m'.history.instantiated = m.history.instantiated ∧
      m'.history.closed = m.history.closed := by
  obtain ⟨entries, hids, hentries, rfl⟩ := announceAll_eq_ok hhandle
  have hlisted : ∀ grouped, { m with
      newPeerStreamGroups := ∅
      newGroupedPeerStreams := []
      history.announced := m.history.announced ++ entries }.listed grouped = m.listed grouped := by
    intro grouped
    unfold PeerStreams.listed
    dsimp only
    rw [List.filter_append, List.map_append]
    cases grouped with
    | false =>
      have hnone : entries.filter (·.2.isSome == false) = [] :=
        List.filter_eq_nil_iff.mpr fun p hp => by simp [(hentries p hp).1]
      rw [hnone]
      exact congrArg (· ++ _) (List.append_nil _)
    | true =>
      have hall : entries.filter (·.2.isSome == true) = entries :=
        List.filter_eq_self.mpr fun p hp => by simp [(hentries p hp).1]
      rw [hall, hids]
      exact List.append_nil _
  refine ⟨?_, rfl, rfl, rfl⟩
  exact { hm with
    listed := fun grouped => (hlisted grouped).trans (hm.listed grouped)
    inv := ⟨hm.inv.remote, hm.inv.initial, hm.inv.told⟩
    groups := fun p hp hgroup => by
      rcases List.mem_append.mp hp with hp | hp
      · exact hm.groups p hp hgroup
      · exact hm.streams p (hm.open_of_stream (hentries p hp).2).1 }

/-! ### Steps and runs -/

theorem getOrCreatePeerStream_closed {stream : Option (Option StreamGroupId)}
    (hget : m.getOrCreatePeerStream streamId streamGroupId = .ok (stream, m')) :
    m'.history.closed = m.history.closed := by
  obtain ⟨-, hgets⟩ := gets_of_getOrCreatePeerStream hget
  cases hgets with
  | «exists» groupId found => rfl
  | instantiated absent isOpen => rw [history_instantiatePeerStream]
  | closed notOpen seen => rfl
  | opened absent unseen below =>
    rw [history_instantiatePeerStream, withOpened_eq]
    rfl

/-- What holds along a run, and that closed streams stay closed. -/
structure Follows (m m' : PeerStreams) : Prop where
  tracked : m'.Tracked
  own : m'.OwnGroup
  closed : ∀ id ∈ m.history.closed, id ∈ m'.history.closed

theorem Follows.step {e : PeerStreamEvent} (hm : m.Tracked) (hown : m.OwnGroup)
    (hstep : m.step e = .ok m') : Follows m m' := by
  cases e with
  | frame streamId streamGroupId =>
    simp only [PeerStreams.step, except_bind_eq_ok] at hstep
    obtain ⟨⟨stream, got⟩, hget, hstep⟩ := hstep
    cases hstep
    obtain ⟨htracked, hown'⟩ := hm.frame hown hget
    refine ⟨htracked, hown', fun id hid => ?_⟩
    dsimp only
    rw [getOrCreatePeerStream_closed hget]
    exact hid
  | close streamId =>
    simp only [PeerStreams.step, except_bind_eq_ok] at hstep
    obtain ⟨removed, hremove, hstep⟩ := hstep
    cases hstep
    obtain rfl | ⟨groupId, r, credit, hfind, hr, rfl⟩ := removeClosedStream_cases hremove
    · have hinv := (SameLimits.maybeSend hm.inv).inv
      rw [maybeSendStreamLimitUpdates_eq] at hinv ⊢
      exact ⟨{ hm with inv := hinv }, hown, fun _ hid => hid⟩
    · refine ⟨hm.removed hfind hr, ?_, ?_⟩
      · rw [maybeSendStreamLimitUpdates_eq]
        exact hown
      · rw [maybeSendStreamLimitUpdates_eq]
        exact fun id hid => List.mem_cons_of_mem _ hid
  | newStreams =>
    cases hstep
    exact ⟨hm.handleNewStreamCallbacks, hown, fun _ hid => hid⟩
  | newGroupedStreams =>
    obtain ⟨htracked, hopened, hinstantiated, hclosed⟩ :=
      hm.handleNewGroupedStreamCallbacks hstep
    refine ⟨htracked, ?_, fun id hid => hclosed ▸ hid⟩
    unfold OwnGroup
    rw [hopened, hinstantiated]
    exact hown
  | ticket bidi uni =>
    rw [PeerStreams.step, Except.ok.injEq] at hstep
    rw [← hstep]
    split
    · rename_i haccepted
      exact ⟨{ hm with inv := hm.inv.ticket haccepted }, hown, fun _ hid => hid⟩
    · exact ⟨hm, hown, fun _ hid => hid⟩
  | setStreamLimitWindowingFraction fraction =>
    rw [PeerStreams.step, Except.ok.injEq] at hstep
    rw [← hstep]
    split
    · exact ⟨{ hm with inv := ⟨hm.inv.remote, hm.inv.initial, hm.inv.told⟩ }, hown,
        fun _ hid => hid⟩
    · exact ⟨hm, hown, fun _ hid => hid⟩

theorem Follows.run {events : List PeerStreamEvent} (hm : m.Tracked) (hown : m.OwnGroup)
    (hrun : events.foldlM PeerStreams.step m = .ok m') : Follows m m' := by
  refine @run_invariant _ _ _ _ (Follows m) (fun u e u' hu hstep => ?_) _ _ _ ?_ hrun
  · have hnext := Follows.step hu.tracked hu.own hstep
    exact ⟨hnext.tracked, hnext.own, fun id hid => hnext.closed id (hu.closed id hid)⟩
  · exact ⟨hm, hown, fun _ hid => hid⟩

theorem tracked_new {nodeType : QuicNodeType} {settings : PeerStreamSettings}
    (hnew : new nodeType settings = .ok m) : m.Tracked ∧ m.OwnGroup := by
  have hinv := (new_kept hnew).1
  simp only [new, except_bind_eq_ok] at hnew
  obtain ⟨bidi, hbidi, uni, huni, hnew⟩ := hnew
  obtain ⟨-, -, -, -, -, hbidiNext, hbidiOpen⟩ := RemoteStreams.new_spec hbidi
  obtain ⟨-, -, -, -, -, huniNext, huniOpen⟩ := RemoteStreams.new_spec huni
  have hremote : ∀ d, (m.remote d).nextAcceptablePeerStreamId =
      initialRemoteStreamId m.nodeType d ∧ (m.remote d).openPeerStreams = ∅ := by
    cases hnew
    intro d
    cases d with
    | bidirectional => exact ⟨hbidiNext, hbidiOpen⟩
    | unidirectional => exact ⟨huniNext, huniOpen⟩
  have hhistory : m.history.named = [] ∧ m.history.opened = [] ∧ m.history.instantiated = [] ∧
      m.history.closed = [] ∧ m.history.announced = [] := by
    cases hnew
    exact ⟨rfl, rfl, rfl, rfl, rfl⟩
  have hlists : m.streams = [] ∧ m.newPeerStreams = [] ∧ m.newGroupedPeerStreams = [] := by
    cases hnew
    exact ⟨rfl, rfl, rfl⟩
  obtain ⟨hnamed, hopened, hinstantiated, hclosed, hannounced⟩ := hhistory
  obtain ⟨hstreams, hnewStreams, hgrouped⟩ := hlists
  have hunseen : ∀ id, ¬ m.Seen id := by
    rintro id ⟨-, n, hn, -⟩
    rw [hnamed] at hn
    cases hn
  refine ⟨?_, by simp [OwnGroup, hopened]⟩
  exact {
    below := by
      intro id hid
      have hkind := kind_iff.mpr ⟨hid, rfl⟩
      rw [(hremote _).1, ← hkind]
      have hle := Nat.mod_le id kStreamIncrement
      exact iff_of_false (Nat.not_lt.mpr hle) (hunseen id)
    isOpen := by
      intro d id
      rw [(hremote d).2]
      exact iff_of_false (Finset.notMem_empty id) fun h => hunseen id h.2.1
    opened := by
      intro id
      rw [hopened]
      exact iff_of_false List.not_mem_nil (hunseen id)
    increasing := by simp [hopened]
    instantiated := by simp [hinstantiated]
    streams := by simp [hstreams]
    listed := by
      intro grouped
      simp [listed, announcements, hannounced, hnewStreams, hgrouped, hinstantiated, hopened]
    groups := by simp [hannounced]
    inv := hinv
    closed := by simp [hclosed]
    live := by simp [hstreams]
    kept := by simp [hinstantiated] }

/-! ### What is announced -/

theorem Tracked.nodup_announcements (hm : m.Tracked) :
    (m.announcements.map Prod.fst).Nodup := by
  by_cases hexplicit : m.notifyOnNewStreamsExplicitly = true
  · rw [announcements_explicit hexplicit]
    exact hm.instantiated
  · rw [announcements_implicit hexplicit, List.map_map]
    change (m.history.opened.map (·.id)).Nodup
    rw [List.nodup_iff_count_le_one]
    intro id
    have hkind := (hm.increasing (getStreamDirectionality id)).imp Nat.ne_of_lt
    rw [← List.count_filter (p := (getStreamDirectionality · == getStreamDirectionality id))
      (beq_self_eq_true _)]
    exact List.nodup_iff_count_le_one.mp hkind id

theorem mem_listed_iff (hm : m.Tracked) {id : Nat} :
    id ∈ m.listed false ++ m.listed true ↔ id ∈ m.announcements.map Prod.fst := by
  rw [hm.listed, hm.listed, ← List.map_append, List.mem_map, List.mem_map]
  refine exists_congr fun p => and_congr_left fun _ => ?_
  rw [List.mem_append, List.mem_filter, List.mem_filter]
  cases p.2.isSome <;> simp

theorem Tracked.announced (hm : m.Tracked) : m.Announced where
  once := by
    rw [hm.listed, hm.listed, ← List.map_append]
    have hperm : (m.announcements.filter (·.2.isSome == false) ++
        m.announcements.filter (·.2.isSome == true)).Perm m.announcements := by
      refine List.Perm.trans List.perm_append_comm ?_
      simpa using List.filter_append_perm (·.2.isSome) m.announcements
    exact (hperm.map Prod.fst).nodup_iff.mpr hm.nodup_announcements
  seen := by
    intro hexplicit id
    rw [mem_listed_iff hm, announcements_implicit hexplicit, List.map_map]
    exact hm.opened id
  increasing := by
    intro hexplicit grouped d
    rw [hm.listed, announcements_implicit hexplicit]
    refine List.Pairwise.sublist (List.Sublist.filter _ ?_) (hm.increasing d)
    have hids : m.history.opened.map (·.id) =
        (m.history.opened.map fun o => (o.id, o.groupId)).map Prod.fst := by
      rw [List.map_map]
      rfl
    rw [hids]
    exact List.filter_sublist.map _
  own := by
    intro hexplicit o ho hid
    rw [hm.listed, announcements_implicit hexplicit]
    refine List.mem_map.mpr ⟨(o.id, o.groupId), List.mem_filter.mpr ⟨?_, beq_self_eq_true _⟩, rfl⟩
    exact List.mem_map_of_mem ho
  explicit := by
    intro hexplicit grouped
    rw [hm.listed, announcements_explicit hexplicit]

/-! ### Limits and groups -/

theorem validateStream_of_remote (hremote : isRemoteStream m.nodeType streamId = true) :
    m.validateStream streamId none = .ok () ∧ ∀ groupId,
      m.validateStream streamId (some groupId) = m.validateStreamGroup groupId := by
  have hclient : ¬ (m.nodeType = .client ∧ isClientStream streamId = true) := by
    rintro ⟨hnode, hclient⟩
    rw [hnode] at hremote
    simp_all [isRemoteStream, isServerStream, isClientStream]
  have hserver : ¬ (m.nodeType = .server ∧ isServerStream streamId = true) := by
    rintro ⟨hnode, hserver⟩
    rw [hnode] at hremote
    simp_all [isRemoteStream, isServerStream, isClientStream]
  have hstream : ¬ (!isClientStream streamId && !isServerStream streamId) = true := by
    simp [isClientStream, isServerStream]
  unfold validateStream
  simp only [if_neg hclient, if_neg hserver, if_neg hstream, implies_true, and_self]

/-- The check of the group fails with a code that tells whose group it is. -/
theorem validateStreamGroup_code {groupId : StreamGroupId} {f : PeerStreamFailure}
    (hvalid : m.validateStreamGroup groupId = .error f) :
    f.code = some (if isRemoteStreamGroup m.nodeType groupId then .streamLimitError
      else .streamStateError) := by
  unfold validateStreamGroup at hvalid
  unfold isRemoteStreamGroup
  cases hnode : m.nodeType with
  | client =>
    simp only [hnode, true_and, reduceCtorEq, false_and, if_false] at hvalid
    split at hvalid
    · rename_i hclient
      cases hvalid
      simp_all [isClientStreamGroup, isServerStreamGroup, PeerStreamFailure.code,
        QuicException.code]
    · rename_i hclient
      split at hvalid
      · cases hvalid
        simp_all [isClientStreamGroup, isServerStreamGroup, PeerStreamFailure.code,
          QuicException.code]
      · cases hvalid
  | server =>
    simp only [hnode, true_and, reduceCtorEq, false_and, if_false] at hvalid
    split at hvalid
    · rename_i hserver
      cases hvalid
      simp_all [isClientStreamGroup, isServerStreamGroup, PeerStreamFailure.code,
        QuicException.code]
    · rename_i hserver
      split at hvalid
      · cases hvalid
        simp_all [isClientStreamGroup, isServerStreamGroup, PeerStreamFailure.code,
          QuicException.code]
      · cases hvalid

theorem remote_of_validateStreamGroup {groupId : StreamGroupId}
    (hvalid : m.validateStreamGroup groupId = .ok ()) :
    isRemoteStreamGroup m.nodeType groupId = true := by
  unfold validateStreamGroup at hvalid
  split at hvalid
  · cases hvalid
  · rename_i hclient
    split at hvalid
    · cases hvalid
    · rename_i hserver
      unfold isRemoteStreamGroup
      cases hnode : m.nodeType with
      | client => simpa [hnode, isClientStreamGroup, isServerStreamGroup] using hclient
      | server => simpa [hnode, isClientStreamGroup, isServerStreamGroup] using hserver

theorem Tracked.getOrCreatePeerStream_of_limit (hm : m.Tracked)
    (hmax : (m.remote (getStreamDirectionality streamId)).maxRemoteStreamId ≤ streamId)
    (hvalid : m.validateStream streamId streamGroupId = .ok ()) :
    m.getOrCreatePeerStream streamId streamGroupId =
      .error (.exception (.transport "Exceeded stream limit." .streamLimitError)) := by
  have hordered := (hm.inv.remote (getStreamDirectionality streamId)).ordered
  have hunseen := hm.not_open (hordered.trans hmax)
  have habsent : m.streams.lookup streamId = none := by
    by_contra hfind
    obtain ⟨groupId, hfind⟩ := Option.ne_none_iff_exists'.mp hfind
    exact hunseen ((hm.isOpen _ _).mp (hm.open_of_stream hfind).2).2.1
  have hopen : streamId ∉ (m.remote (getStreamDirectionality streamId)).openPeerStreams :=
    fun hmem => hunseen ((hm.isOpen _ _).mp hmem).2.1
  unfold getOrCreatePeerStream
  rw [hvalid, habsent]
  change (if streamId ∈ _ then _ else _) = _
  rw [if_neg hopen, RemoteStreams.openPeerStreamIfNotClosed,
    if_neg (Nat.not_lt.mpr (hordered.trans hmax)), if_pos hmax]

theorem Tracked.code_of_limit (hm : m.Tracked)
    (hremote : isRemoteStream m.nodeType streamId = true)
    (hmax : (m.remote (getStreamDirectionality streamId)).maxRemoteStreamId ≤ streamId)
    (streamGroupId : Option StreamGroupId) :
    ∃ f, m.getOrCreatePeerStream streamId streamGroupId = .error f ∧
      f.code = some (if streamGroupId.all (isRemoteStreamGroup m.nodeType) then .streamLimitError
        else .streamStateError) := by
  obtain ⟨hnone, hsome⟩ := validateStream_of_remote hremote
  cases streamGroupId with
  | none =>
    have hget := hm.getOrCreatePeerStream_of_limit hmax hnone
    exact ⟨_, hget, rfl⟩
  | some groupId =>
    cases hvalid : m.validateStreamGroup groupId with
    | error f =>
      refine ⟨f, ?_, validateStreamGroup_code hvalid⟩
      unfold getOrCreatePeerStream
      rw [hsome, hvalid]
      rfl
    | ok u =>
      have hget := hm.getOrCreatePeerStream_of_limit hmax ((hsome groupId).trans hvalid)
      refine ⟨_, hget, ?_⟩
      rw [Option.all_some, remote_of_validateStreamGroup hvalid]
      rfl

theorem validateStream_ends (streamId : Nat) (streamGroupId : Option StreamGroupId) :
    Ends (fun f => ∃ e, f = .exception e) (m.validateStream streamId streamGroupId)
      fun _ => True := by
  refine Ends.ite (fun _ => .error ⟨_, rfl⟩) fun _ => ?_
  refine Ends.ite (fun _ => .error ⟨_, rfl⟩) fun _ => ?_
  refine Ends.ite (fun _ => .error ⟨_, rfl⟩) fun _ => ?_
  cases streamGroupId with
  | none => exact .ok trivial
  | some groupId =>
    refine Ends.ite (fun _ => .error ⟨_, rfl⟩) fun _ => ?_
    refine Ends.ite (fun _ => .error ⟨_, rfl⟩) fun _ => ?_
    exact Ends.ite (fun _ => .error ⟨_, rfl⟩) fun _ => .ok trivial

/-- A frame is refused with an exception and in no other way. -/
theorem getOrCreatePeerStream_ends (streamId : Nat) (streamGroupId : Option StreamGroupId) :
    Ends (fun f => ∃ e, f = .exception e) (m.getOrCreatePeerStream streamId streamGroupId)
      fun _ => True := by
  refine (validateStream_ends streamId streamGroupId).bind fun _ _ => ?_
  cases m.streams.lookup streamId with
  | some groupId => exact .ok trivial
  | none =>
    refine Ends.ite (fun _ => .ok trivial) fun _ => ?_
    cases (m.remote (getStreamDirectionality streamId)).openPeerStreamIfNotClosed streamId with
    | ok r => exact .ok trivial
    | error code =>
      cases code with
      | creatingExistingStream => exact .ok trivial
      | streamLimitExceeded => exact .error ⟨_, rfl⟩

/-- With explicit notifications, a stream that is to be announced in a group has one. -/
theorem Tracked.group_of_listed (hm : m.Tracked)
    (hexplicit : m.notifyOnNewStreamsExplicitly = true)
    (hid : streamId ∈ m.newGroupedPeerStreams) :
    ∃ groupId, (streamId, some groupId) ∈ m.history.instantiated := by
  have hlisted : streamId ∈ m.listed true := List.mem_append_right _ hid
  rw [hm.listed, announcements_explicit hexplicit] at hlisted
  obtain ⟨⟨id, groupId⟩, hp, rfl⟩ := List.mem_map.mp hlisted
  obtain ⟨hp, hgroup⟩ := List.mem_filter.mp hp
  cases groupId with
  | none => cases hgroup
  | some groupId => exact ⟨groupId, hp⟩

theorem Tracked.announceInGroup_ne (hm : m.Tracked) {groupId : StreamGroupId}
    (hgroup : (streamId, some groupId) ∈ m.history.instantiated) (hstreams : m'.streams = m.streams)
    (hremote : m'.remote = m.remote) : m'.announceInGroup streamId ≠ .error .checkGroupId := by
  intro herror
  obtain ⟨hseen, hlive⟩ := hm.kept _ hgroup
  unfold announceInGroup at herror
  have hends := m'.getOrCreatePeerStream_ends streamId none
  cases hget : m'.getOrCreatePeerStream streamId none with
  | error f =>
    rw [hget] at herror hends
    cases herror
    obtain ⟨e, he⟩ := hends
    cases he
  | ok got =>
    obtain ⟨stream, got⟩ := got
    rw [hget] at herror
    obtain ⟨-, hgets⟩ := gets_of_getOrCreatePeerStream hget
    cases hgets with
    | «exists» found' found =>
      rw [hstreams] at found
      have hmem := hm.streams _ (hm.open_of_stream found).1
      have heq := List.inj_on_of_nodup_map hm.instantiated hmem hgroup rfl
      cases heq
      cases herror
    | instantiated absent isOpen =>
      rw [hstreams] at absent
      rw [hremote] at isOpen
      exact hm.not_instantiated absent isOpen (List.mem_map_of_mem hgroup)
    | closed notOpen seen => cases herror
    | opened absent unseen below =>
      rw [hremote] at unseen
      exact hm.not_open unseen hseen

theorem Tracked.checkGroupId (hm : m.Tracked)
    (hexplicit : m.notifyOnNewStreamsExplicitly = true) :
    m.step .newGroupedStreams ≠ .error .checkGroupId := by
  intro herror
  have hfold : m.newGroupedPeerStreams.foldlM announceInGroup
      { m with newPeerStreamGroups := ∅, newGroupedPeerStreams := [] } =
        .error .checkGroupId := herror
  refine @run_error_on PeerStreams StreamId PeerStreamFailure announceInGroup
    (fun u => u.streams = m.streams ∧ u.remote = m.remote)
    (fun id => id ∈ m.newGroupedPeerStreams) (fun f => f ≠ .checkGroupId) ?_ ?_ _ _ _ ?_
    (fun _ h => h) hfold rfl
  · rintro u id u' - ⟨hstreams, hremote⟩ hstep
    obtain ⟨groupId, -, rfl⟩ := announceInGroup_eq_ok hstep
    exact ⟨hstreams, hremote⟩
  · rintro u id f hid ⟨hstreams, hremote⟩ hfail rfl
    obtain ⟨groupId, hgroup⟩ := hm.group_of_listed hexplicit hid
    exact hm.announceInGroup_ne hgroup hstreams hremote hfail
  · exact ⟨rfl, rfl⟩

end PeerStreams

/-- In every run the streams of the peer are orderly, a closed stream is never open again, a frame
for a stream beyond the limit is refused, and with explicit notifications a stream that is
announced in a group has one. -/
theorem peerStreams_orderly {nodeType : QuicNodeType} {settings : PeerStreamSettings}
    {start m m' : PeerStreams} {fs gs : List PeerStreamEvent}
    (hstart : PeerStreams.new nodeType settings = .ok start)
    (hrun : fs.foldlM PeerStreams.step start = .ok m)
    (hlater : gs.foldlM PeerStreams.step m = .ok m') :
    m'.Orderly ∧ m'.OwnGroup ∧ m'.Announced ∧
      (∀ id ∈ m.history.closed, ∀ d, id ∉ (m'.remote d).openPeerStreams) ∧
      (∀ (id : StreamId) (groupId : Option StreamGroupId),
        isRemoteStream m'.nodeType id = true →
        (m'.remote (getStreamDirectionality id)).maxRemoteStreamId ≤ id →
        ∃ f, m'.getOrCreatePeerStream id groupId = .error f ∧
          f.code = some (if groupId.all (isRemoteStreamGroup m'.nodeType) then .streamLimitError
            else .streamStateError)) ∧
      (m'.notifyOnNewStreamsExplicitly = true →
        m'.step .newGroupedStreams ≠ .error .checkGroupId) := by
  obtain ⟨htracked, hown⟩ := PeerStreams.tracked_new hstart
  have hm := PeerStreams.Follows.run htracked hown hrun
  have hm' := PeerStreams.Follows.run hm.tracked hm.own hlater
  refine ⟨hm'.tracked.toOrderly, hm'.own, hm'.tracked.announced, fun id hid d hopen => ?_, fun id groupId hid hmax => ?_,
    hm'.tracked.checkGroupId⟩
  · exact ((hm'.tracked.isOpen d id).mp hopen).2.2 (hm'.closed id hid)
  · exact hm'.tracked.code_of_limit hid hmax groupId

/-- The second stream is opened in a group and closed; later the first one is named. -/
theorem peerStreams_orderly_inGroup :
    ∃ start m m', PeerStreams.new .server ⟨4, 4, 8, true⟩ = .ok start ∧
      [.frame 4 (some 0), .newGroupedStreams, .close 4].foldlM PeerStreams.step start = .ok m ∧
      [.frame 0 none, .newStreams].foldlM PeerStreams.step m = .ok m' ∧
      m'.history.announced = [(4, some 0), (0, none)] ∧ m'.Orderly ∧ m'.Announced := by
  have hrun : ∃ start m m', PeerStreams.new .server ⟨4, 4, 8, true⟩ = .ok start ∧
      [.frame 4 (some 0), .newGroupedStreams, .close 4].foldlM PeerStreams.step start = .ok m ∧
      [.frame 0 none, .newStreams].foldlM PeerStreams.step m = .ok m' ∧
      m'.history.announced = [(4, some 0), (0, none)] :=
    ⟨_, _, _, rfl, rfl, rfl, by decide +kernel⟩
  obtain ⟨start, m, m', hstart, hfirst, hlater, hcalls⟩ := hrun
  obtain ⟨horderly, -, hannounced, -⟩ := peerStreams_orderly hstart hfirst hlater
  exact ⟨start, m, m', hstart, hfirst, hlater, hcalls, horderly, hannounced⟩

/-- With explicit notifications stream 0 is seen but not announced, and later announced after
stream 4. Without them, stream 0 in a group is announced after stream 4 in none; a group of this
side gives another error beyond the limit; and stream 0 is to be announced in a group although it
has none. -/
theorem peerStreams_disorderly :
    (∃ start m m', PeerStreams.new .server ⟨4, 4, 8, true⟩ = .ok start ∧
      [.frame 4 none, .newStreams].foldlM PeerStreams.step start = .ok m ∧
      m.Seen 0 ∧ m.history.announced = [(4, none)] ∧ m.newPeerStreams = [] ∧
      [.frame 0 none, .newStreams].foldlM PeerStreams.step m = .ok m' ∧
      m'.history.announced = [(4, none), (0, none)]) ∧
    (∃ start m, PeerStreams.new .server ⟨4, 4, 8, false⟩ = .ok start ∧
      [.frame 0 (some 0), .frame 4 none, .newStreams, .newGroupedStreams].foldlM
        PeerStreams.step start = .ok m ∧
      m.history.announced = [(4, none), (0, some 0)] ∧
      (start.getOrCreatePeerStream 16 (some 1)).map Prod.fst = .error (.exception (.transport
        "Received a server stream group id on server" .streamStateError)) ∧
      ∃ u, start.step (.frame 4 (some 0)) = .ok u ∧
        u.step .newGroupedStreams = .error .checkGroupId) := by
  refine ⟨⟨_, _, _, rfl, rfl, ?_, by decide +kernel, by decide +kernel, rfl, by decide +kernel⟩,
    ⟨_, _, rfl, rfl, by decide +kernel, by decide +kernel, _, rfl, ?_⟩⟩
  · exact ⟨rfl, 4, List.mem_cons_self, rfl, by decide⟩
  · rfl

end MasqueQuic
