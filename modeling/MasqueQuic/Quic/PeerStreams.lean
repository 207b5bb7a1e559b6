/-
The streams that the peer opens.

A frame for a stream that has not been seen opens it together with all lower streams of its kind,
but only the stream that the frame names is instantiated. `RemoteStreams` is what the stream
manager and the settings keep for one kind of them, bidirectional or unidirectional, and
`PeerStreams` the rest. Removing a closed stream gives credit back and may raise the limit that
the peer is told. `history` records what has happened and is read by nothing.

The streams of this endpoint's own side are not modelled: the two sides share no id. A ticket
stands for one that has passed the other checks of `DefaultAppTokenValidator::validate`.
-/

import MasqueQuic.Lib.Run
import MasqueQuic.Quic.Decode

namespace MasqueQuic

abbrev StreamGroupId := Nat

inductive StreamDirectionality where
  | bidirectional
  | unidirectional
  deriving DecidableEq

def kStreamIncrement : Nat := 0x04

def kStreamGroupIncrement : Nat := 0x04

def kMaxStreamGroupId : Nat := 128 * kStreamGroupIncrement

def isServerStream (stream : StreamId) : Bool := stream.testBit 0

def isClientStream (stream : StreamId) : Bool := !stream.testBit 0

def isServerStreamGroup (id : StreamGroupId) : Bool := id.testBit 0

def isClientStreamGroup (id : StreamGroupId) : Bool := !id.testBit 0

def isRemoteStream (nodeType : QuicNodeType) (stream : StreamId) : Bool :=
  match nodeType with
  | .client => isServerStream stream
  | .server => isClientStream stream

def getStreamDirectionality (stream : StreamId) : StreamDirectionality :=
  if isUnidirectionalStream stream then .unidirectional else .bidirectional

inductive PeerStreamFailure where
  | exception (e : QuicException)
  | checkOpenable  -- `CHECK_GE(maxRemoteStreamId_, nextAcceptablePeerStreamId_)`
  | checkStream    -- `CHECK_NOTNULL(conn_->streamManager->getStream(streamId))`
  | checkGroupId   -- `CHECK(stream->groupId)`
  deriving DecidableEq

def PeerStreamFailure.code : PeerStreamFailure → Option TransportErrorCode
  | .exception e => e.code
  | _ => none

inductive LocalErrorCode where
  | creatingExistingStream
  | streamLimitExceeded

/-- What `streamCredit` is computed from. -/
structure StreamCredit where
  initialStreamLimit : Nat
  openableRemoteStreams : Nat
  openPeerStreams : Nat

def StreamCredit.streamCredit (c : StreamCredit) : Nat :=
  sub64 (sub64 c.initialStreamLimit c.openableRemoteStreams) c.openPeerStreams

structure RemoteStreams where
  advertisedInitialMaxStreams : Nat
  initialRemoteStreamId : Nat
  nextAcceptablePeerStreamId : Nat
  maxRemoteStreamId : Nat
  openPeerStreams : Finset Nat
  remoteStreamLimitUpdate : Option Nat

namespace RemoteStreams

def setMaxRemoteStreamsInternal (r : RemoteStreams) (maxStreams : Nat) (force : Bool) :
    Except PeerStreamFailure RemoteStreams :=
  if maxStreams > kMaxMaxStreams then
    .error (.exception (.transport "Attempt to set maxStreams beyond the max allowed."
      .streamLimitError))
  else
    let maxStreamId := maxStreams * kStreamIncrement + r.initialRemoteStreamId
    .ok (if force || decide (maxStreamId > r.maxRemoteStreamId) then
      { r with maxRemoteStreamId := maxStreamId } else r)

def openableRemoteStreams (r : RemoteStreams) : Except PeerStreamFailure Nat :=
  if r.maxRemoteStreamId < r.nextAcceptablePeerStreamId then .error .checkOpenable
  else .ok ((r.maxRemoteStreamId - r.nextAcceptablePeerStreamId) / kStreamIncrement)

/-- The limit that is enforced, as a number of streams. -/
def maxStreams (r : RemoteStreams) : Nat :=
  (r.maxRemoteStreamId - r.initialRemoteStreamId) / kStreamIncrement

/-- The ids from the next acceptable one up to `streamId`. -/
def newStreamIds (r : RemoteStreams) (streamId : Nat) : List Nat :=
  List.range' r.nextAcceptablePeerStreamId
    ((streamId - r.nextAcceptablePeerStreamId) / kStreamIncrement + 1) kStreamIncrement

/-- The streams after all up to `streamId` have been opened. -/
def openUpTo (r : RemoteStreams) (streamId : Nat) : RemoteStreams :=
  { r with
    openPeerStreams := r.openPeerStreams ∪ (r.newStreamIds streamId).toFinset
    nextAcceptablePeerStreamId := streamId + kStreamIncrement }

def openPeerStreamIfNotClosed (r : RemoteStreams) (streamId : Nat) :
    Except LocalErrorCode RemoteStreams :=
  if streamId < r.nextAcceptablePeerStreamId then .error .creatingExistingStream
  else if streamId ≥ r.maxRemoteStreamId then .error .streamLimitExceeded
  else .ok (r.openUpTo streamId)

/-- The part of `removeClosedStream` that is about the streams of the peer. -/
def removeClosedStream (r : RemoteStreams) (streamLimitWindowingFraction : Nat)
    (streamId : Nat) : Except PeerStreamFailure (RemoteStreams × StreamCredit) := do
  let r := { r with openPeerStreams := r.openPeerStreams.erase streamId }
  let streamWindow := r.advertisedInitialMaxStreams / streamLimitWindowingFraction
  let openable ← r.openableRemoteStreams
  let credit : StreamCredit := ⟨r.advertisedInitialMaxStreams, openable, r.openPeerStreams.card⟩
  if credit.streamCredit ≥ streamWindow then
    let limit := u64 (r.maxStreams + credit.streamCredit)
    let r ← r.setMaxRemoteStreamsInternal limit false
    return ({ r with remoteStreamLimitUpdate := some limit }, credit)
  else return (r, credit)

end RemoteStreams

/-- A stream and the frame that opened it. -/
structure OpenedStream where
  id : Nat
  namedId : Nat
  groupId : Option StreamGroupId

/-- `advertised` are the limits that the peer has been told, the latest first. -/
structure PeerStreamHistory where
  named : List StreamId
  opened : List OpenedStream
  instantiated : List (StreamId × Option StreamGroupId)
  closed : List StreamId
  announced : List (StreamId × Option StreamGroupId)
  credits : List StreamCredit
  advertised : StreamDirectionality → List Nat

/-- `streams` gives the group of a stream that is instantiated. -/
structure PeerStreams where
  nodeType : QuicNodeType
  notifyOnNewStreamsExplicitly : Bool
  advertisedMaxStreamGroups : Nat
  streamLimitWindowingFraction : Nat
  remote : StreamDirectionality → RemoteStreams
  streams : List (StreamId × Option StreamGroupId)
  peerStreamGroupsSeen : Finset StreamGroupId
  newPeerStreamGroups : Finset StreamGroupId
  newPeerStreams : List StreamId
  newGroupedPeerStreams : List StreamId
  history : PeerStreamHistory

/-- `TransportSettings`, as far as the peer's streams depend on it. -/
structure PeerStreamSettings where
  advertisedInitialMaxStreamsBidi : Nat
  advertisedInitialMaxStreamsUni : Nat
  advertisedMaxStreamGroups : Nat
  notifyOnNewStreamsExplicitly : Bool

/-- `frame` is any frame that names a stream of the peer. `newStreams` and `newGroupedStreams`
are the callbacks after data from the network. -/
inductive PeerStreamEvent where
  | frame (streamId : StreamId) (streamGroupId : Option StreamGroupId)
  | close (streamId : StreamId)
  | newStreams
  | newGroupedStreams
  | ticket (initialMaxStreamsBidi initialMaxStreamsUni : Nat)
  | setStreamLimitWindowingFraction (fraction : Nat)

def initialRemoteStreamId : QuicNodeType → StreamDirectionality → Nat
  | .server, .bidirectional => 0x00
  | .server, .unidirectional => 0x02
  | .client, .bidirectional => 0x01
  | .client, .unidirectional => 0x03

/-- The streams of one kind as the constructor leaves them. -/
def RemoteStreams.new (nodeType : QuicNodeType) (directionality : StreamDirectionality)
    (advertisedInitialMaxStreams : Nat) : Except PeerStreamFailure RemoteStreams :=
  setMaxRemoteStreamsInternal {
    advertisedInitialMaxStreams
    initialRemoteStreamId := MasqueQuic.initialRemoteStreamId nodeType directionality
    nextAcceptablePeerStreamId := MasqueQuic.initialRemoteStreamId nodeType directionality
    maxRemoteStreamId := 0
    openPeerStreams := ∅
    remoteStreamLimitUpdate := none } advertisedInitialMaxStreams true

/-- The kind of a stream of the peer shows in the low bits of its id. -/
theorem kind_iff {nodeType : QuicNodeType} {d : StreamDirectionality} {id : Nat} :
    id % kStreamIncrement = initialRemoteStreamId nodeType d ↔
      isRemoteStream nodeType id = true ∧ getStreamDirectionality id = d := by
  have hbit : id.testBit 1 = decide (id / 2 % 2 = 1) := by
    rw [Nat.testBit_succ, Nat.testBit_zero]
  unfold getStreamDirectionality isUnidirectionalStream kStreamIncrement
  rw [hbit]
  cases nodeType <;> cases d <;>
    simp only [initialRemoteStreamId, isRemoteStream, isServerStream, isClientStream,
      Nat.testBit_zero, decide_eq_true_eq, Bool.not_eq_true', decide_eq_false_iff_not] <;>
    split <;> simp <;> omega

namespace PeerStreams

def new (nodeType : QuicNodeType) (settings : PeerStreamSettings) :
    Except PeerStreamFailure PeerStreams := do
  let bidi ← RemoteStreams.new nodeType .bidirectional settings.advertisedInitialMaxStreamsBidi
  let uni ← RemoteStreams.new nodeType .unidirectional settings.advertisedInitialMaxStreamsUni
  return {
    nodeType
    notifyOnNewStreamsExplicitly := settings.notifyOnNewStreamsExplicitly
    advertisedMaxStreamGroups := settings.advertisedMaxStreamGroups
    streamLimitWindowingFraction := 2
    remote := fun
      | .bidirectional => bidi
      | .unidirectional => uni
    streams := []
    peerStreamGroupsSeen := ∅
    newPeerStreamGroups := ∅
    newPeerStreams := []
    newGroupedPeerStreams := []
    history := {
      named := []
      opened := []
      instantiated := []
      closed := []
      announced := []
      credits := []
      advertised := fun
        | .bidirectional => [settings.advertisedInitialMaxStreamsBidi]
        | .unidirectional => [settings.advertisedInitialMaxStreamsUni] } }

def setRemote (m : PeerStreams) (d : StreamDirectionality) (r : RemoteStreams) : PeerStreams :=
  { m with remote := Function.update m.remote d r }

/-- The list that the group of a frame selects. -/
def pushNewStreams (m : PeerStreams) (groupId : Option StreamGroupId) (ids : List StreamId) :
    PeerStreams :=
  match groupId with
  | none => { m with newPeerStreams := m.newPeerStreams ++ ids }
  | some _ => { m with newGroupedPeerStreams := m.newGroupedPeerStreams ++ ids }

def seeGroup (m : PeerStreams) : Option StreamGroupId → PeerStreams
  | none => m
  | some groupId =>
      if groupId ∈ m.peerStreamGroupsSeen then m
      else { m with
        newPeerStreamGroups := insert groupId m.newPeerStreamGroups
        peerStreamGroupsSeen := insert groupId m.peerStreamGroupsSeen }

def instantiatePeerStream (m : PeerStreams) (streamId : StreamId)
    (groupId : Option StreamGroupId) : PeerStreams :=
  let m := m.seeGroup groupId
  let m := if m.notifyOnNewStreamsExplicitly then m.pushNewStreams groupId [streamId] else m
  { m with
    streams := (streamId, groupId) :: m.streams
    history.instantiated := m.history.instantiated ++ [(streamId, groupId)] }

def validateStreamGroup (m : PeerStreams) (streamGroupId : StreamGroupId) :
    Except PeerStreamFailure Unit :=
  if m.nodeType = .client ∧ isClientStreamGroup streamGroupId then
    .error (.exception (.transport "Received a client stream group id on client"
      .streamStateError))
  else if m.nodeType = .server ∧ isServerStreamGroup streamGroupId then
    .error (.exception (.transport "Received a server stream group id on server"
      .streamStateError))
  else if streamGroupId ≥
      min (u64 (m.advertisedMaxStreamGroups * kStreamGroupIncrement)) kMaxStreamGroupId then
    .error (.exception (.transport "Invalid stream group id" .streamLimitError))
  else .ok ()

def validateStream (m : PeerStreams) (streamId : StreamId)
    (streamGroupId : Option StreamGroupId) : Except PeerStreamFailure Unit :=
  if m.nodeType = .client ∧ isClientStream streamId then
    .error (.exception (.transport "Attempted getting client peer stream on client"
      .streamStateError))
  else if m.nodeType = .server ∧ isServerStream streamId then
    .error (.exception (.transport "Attempted getting server peer stream on server"
      .streamStateError))
  else if !isClientStream streamId && !isServerStream streamId then
    .error (.exception (.transport "Invalid stream" .streamStateError))
  else
    match streamGroupId with
    | none => .ok ()
    | some streamGroupId => m.validateStreamGroup streamGroupId

/-- The streams after `openPeerStreamIfNotClosed` has opened some. -/
def withOpened (m : PeerStreams) (r : RemoteStreams) (streamId : StreamId)
    (streamGroupId : Option StreamGroupId) : PeerStreams :=
  let d := getStreamDirectionality streamId
  let ids := (m.remote d).newStreamIds streamId
  let m := m.setRemote d r
  let m := if m.notifyOnNewStreamsExplicitly then m else m.pushNewStreams streamGroupId ids
  { m with
    history.opened := m.history.opened ++ ids.map fun id => ⟨id, streamId, streamGroupId⟩ }

/-- The result is the group of the stream, or `none` for the null pointer. -/
def getOrCreatePeerStream (m : PeerStreams) (streamId : StreamId)
    (streamGroupId : Option StreamGroupId) :
    Except PeerStreamFailure (Option (Option StreamGroupId) × PeerStreams) := do
  m.validateStream streamId streamGroupId
  match m.streams.lookup streamId with
  | some groupId => return (some groupId, m)
  | none =>
      let r := m.remote (getStreamDirectionality streamId)
      if streamId ∈ r.openPeerStreams then
        return (some streamGroupId, m.instantiatePeerStream streamId streamGroupId)
      match r.openPeerStreamIfNotClosed streamId with
      | .error .creatingExistingStream => return (none, m)
      | .error .streamLimitExceeded =>
          .error (.exception (.transport "Exceeded stream limit." .streamLimitError))
      | .ok r =>
          let m := m.withOpened r streamId streamGroupId
          return (some streamGroupId, m.instantiatePeerStream streamId streamGroupId)

def removeClosedStream (m : PeerStreams) (streamId : StreamId) :
    Except PeerStreamFailure PeerStreams :=
  match m.streams.lookup streamId with
  | none => .ok m
  | some _ => do
      let d := getStreamDirectionality streamId
      let (r, credit) ← (m.remote d).removeClosedStream m.streamLimitWindowingFraction streamId
      return { m.setRemote d r with
        streams := m.streams.filter (·.1 != streamId)
        history.closed := streamId :: m.history.closed
        history.credits := credit :: m.history.credits }

/-- The update of one kind of streams is consumed and sent. -/
def sendStreamLimitUpdate (m : PeerStreams) (d : StreamDirectionality) : PeerStreams :=
  match (m.remote d).remoteStreamLimitUpdate with
  | none => m
  | some update => { m.setRemote d { m.remote d with remoteStreamLimitUpdate := none } with
      history.advertised :=
        Function.update m.history.advertised d (update :: m.history.advertised d) }

def maybeSendStreamLimitUpdates (m : PeerStreams) : PeerStreams :=
  (m.sendStreamLimitUpdate .bidirectional).sendStreamLimitUpdate .unidirectional

def handleNewStreamCallbacks (m : PeerStreams) : PeerStreams :=
  { m with
    newPeerStreams := []
    history.announced := m.history.announced ++ m.newPeerStreams.map fun id => (id, none) }

def announceInGroup (m : PeerStreams) (streamId : StreamId) :
    Except PeerStreamFailure PeerStreams := do
  let (stream, m) ← m.getOrCreatePeerStream streamId none
  match stream with
  | none => .error .checkStream
  | some none => .error .checkGroupId
  | some (some groupId) =>
      return { m with history.announced := m.history.announced ++ [(streamId, some groupId)] }

def handleNewGroupedStreamCallbacks (m : PeerStreams) : Except PeerStreamFailure PeerStreams :=
  m.newGroupedPeerStreams.foldlM announceInGroup
    { m with newPeerStreamGroups := ∅, newGroupedPeerStreams := [] }

/-- The check of the validator on the numbers of streams. -/
def ticketAccepted (m : PeerStreams) (initialMaxStreamsBidi initialMaxStreamsUni : Nat) : Bool :=
  decide (initialMaxStreamsBidi ≤ (m.remote .bidirectional).advertisedInitialMaxStreams) &&
    decide (initialMaxStreamsUni ≤ (m.remote .unidirectional).advertisedInitialMaxStreams)

def updateTransportParamsFromTicket (m : PeerStreams)
    (initialMaxStreamsBidi initialMaxStreamsUni : Nat) : PeerStreams :=
  { m with
    remote := fun d => { m.remote d with
      advertisedInitialMaxStreams :=
        match d with
        | .bidirectional => initialMaxStreamsBidi
        | .unidirectional => initialMaxStreamsUni } }

def step (m : PeerStreams) : PeerStreamEvent → Except PeerStreamFailure PeerStreams
  | .frame streamId streamGroupId => do
      let (_, m) ← m.getOrCreatePeerStream streamId streamGroupId
      return { m with history.named := streamId :: m.history.named }
  | .close streamId => do
      let m ← m.removeClosedStream streamId
      return m.maybeSendStreamLimitUpdates
  | .newStreams => .ok m.handleNewStreamCallbacks
  | .newGroupedStreams => m.handleNewGroupedStreamCallbacks
  | .ticket initialMaxStreamsBidi initialMaxStreamsUni =>
      .ok (if m.ticketAccepted initialMaxStreamsBidi initialMaxStreamsUni then
        m.updateTransportParamsFromTicket initialMaxStreamsBidi initialMaxStreamsUni else m)
  | .setStreamLimitWindowingFraction fraction =>
      .ok (if fraction > 0 then { m with streamLimitWindowingFraction := fraction } else m)

variable {m m' : PeerStreams} {streamId : Nat} {streamGroupId : Option StreamGroupId}

/-! ### What a frame does -/

/-- The ways in which `getOrCreatePeerStream` returns. -/
inductive Gets (m : PeerStreams) (streamId : Nat) (streamGroupId : Option StreamGroupId) :
    Option (Option StreamGroupId) → PeerStreams → Prop
  | exists (groupId : Option StreamGroupId) (found : m.streams.lookup streamId = some groupId) :
      Gets m streamId streamGroupId (some groupId) m
  | instantiated (absent : m.streams.lookup streamId = none)
      (isOpen : streamId ∈ (m.remote (getStreamDirectionality streamId)).openPeerStreams) :
      Gets m streamId streamGroupId (some streamGroupId)
        (m.instantiatePeerStream streamId streamGroupId)
  | closed (notOpen : streamId ∉ (m.remote (getStreamDirectionality streamId)).openPeerStreams)
      (seen : streamId < (m.remote (getStreamDirectionality streamId)).nextAcceptablePeerStreamId) :
      Gets m streamId streamGroupId none m
  | opened (absent : m.streams.lookup streamId = none)
      (unseen :
        (m.remote (getStreamDirectionality streamId)).nextAcceptablePeerStreamId ≤ streamId)
      (below : streamId < (m.remote (getStreamDirectionality streamId)).maxRemoteStreamId) :
      Gets m streamId streamGroupId (some streamGroupId)
        ((m.withOpened ((m.remote (getStreamDirectionality streamId)).openUpTo streamId) streamId
          streamGroupId).instantiatePeerStream streamId streamGroupId)

theorem gets_of_getOrCreatePeerStream {stream : Option (Option StreamGroupId)}
    (hget : m.getOrCreatePeerStream streamId streamGroupId = .ok (stream, m')) :
    m.validateStream streamId streamGroupId = .ok () ∧
      Gets m streamId streamGroupId stream m' := by
  unfold getOrCreatePeerStream at hget
  rw [except_bind_eq_ok] at hget
  obtain ⟨u, hvalid, hget⟩ := hget
  refine ⟨hvalid, ?_⟩
  cases hfind : m.streams.lookup streamId with
  | some groupId =>
    rw [hfind] at hget
    cases hget
    exact .exists groupId hfind
  | none =>
    rw [hfind] at hget
    dsimp only at hget
    split at hget
    · rename_i hopen
      cases hget
      exact .instantiated hfind hopen
    · rename_i hopen
      by_cases hlt : streamId <
          (m.remote (getStreamDirectionality streamId)).nextAcceptablePeerStreamId
      · rw [RemoteStreams.openPeerStreamIfNotClosed, if_pos hlt] at hget
        cases hget
        exact .closed hopen hlt
      · rw [RemoteStreams.openPeerStreamIfNotClosed, if_neg hlt] at hget
        by_cases hlimit :
            streamId ≥ (m.remote (getStreamDirectionality streamId)).maxRemoteStreamId
        · rw [if_pos hlimit] at hget
          cases hget
        · rw [if_neg hlimit] at hget
          cases hget
          exact .opened hfind (Nat.le_of_not_lt hlt) (Nat.lt_of_not_le hlimit)

theorem isRemoteStream_of_validateStream
    (hvalid : m.validateStream streamId streamGroupId = .ok ()) :
    isRemoteStream m.nodeType streamId = true := by
  unfold validateStream at hvalid
  split at hvalid
  · cases hvalid
  · rename_i hclient
    split at hvalid
    · cases hvalid
    · rename_i hserver
      unfold isRemoteStream
      cases hnode : m.nodeType with
      | client => simpa [hnode, isClientStream, isServerStream] using hclient
      | server => simpa [hnode, isClientStream, isServerStream] using hserver

/-- The ids of a frame that go to the list of the streams in groups, or to the other one. -/
def listedFor (grouped : Bool) (groupId : Option StreamGroupId) (ids : List StreamId) :
    List StreamId :=
  if groupId.isSome = grouped then ids else []

theorem listedFor_nil (grouped : Bool) (groupId : Option StreamGroupId) :
    listedFor grouped groupId [] = [] := ite_self _

theorem pushNewStreams_eq (groupId : Option StreamGroupId) (ids : List StreamId) :
    m.pushNewStreams groupId ids = { m with
      newPeerStreams := m.newPeerStreams ++ listedFor false groupId ids
      newGroupedPeerStreams := m.newGroupedPeerStreams ++ listedFor true groupId ids } := by
  cases groupId <;> simp [pushNewStreams, listedFor]

theorem seeGroup_eq (groupId : Option StreamGroupId) :
    ∃ new seen, m.seeGroup groupId =
      { m with newPeerStreamGroups := new, peerStreamGroupsSeen := seen } := by
  unfold seeGroup
  split
  · exact ⟨_, _, rfl⟩
  · split <;> exact ⟨_, _, rfl⟩

/-- What instantiating a stream changes. -/
theorem instantiatePeerStream_eq (streamId : Nat) (groupId : Option StreamGroupId) :
    ∃ new seen, m.instantiatePeerStream streamId groupId = { m with
      streams := (streamId, groupId) :: m.streams
      newPeerStreamGroups := new
      peerStreamGroupsSeen := seen
      newPeerStreams := m.newPeerStreams ++
        listedFor false groupId (if m.notifyOnNewStreamsExplicitly then [streamId] else [])
      newGroupedPeerStreams := m.newGroupedPeerStreams ++
        listedFor true groupId (if m.notifyOnNewStreamsExplicitly then [streamId] else [])
      history.instantiated := m.history.instantiated ++ [(streamId, groupId)] } := by
  obtain ⟨new, seen, hsee⟩ := m.seeGroup_eq groupId
  refine ⟨new, seen, ?_⟩
  unfold instantiatePeerStream
  rw [hsee]
  dsimp only
  split
  · rw [pushNewStreams_eq]
  · simp only [listedFor_nil, List.append_nil]

/-- What opening streams changes. -/
theorem withOpened_eq (r : RemoteStreams) (streamId : Nat)
    (streamGroupId : Option StreamGroupId) :
    m.withOpened r streamId streamGroupId =
      let ids := (m.remote (getStreamDirectionality streamId)).newStreamIds streamId
      { m.setRemote (getStreamDirectionality streamId) r with
        newPeerStreams := m.newPeerStreams ++
          listedFor false streamGroupId (if m.notifyOnNewStreamsExplicitly then [] else ids)
        newGroupedPeerStreams := m.newGroupedPeerStreams ++
          listedFor true streamGroupId (if m.notifyOnNewStreamsExplicitly then [] else ids)
        history.opened :=
          m.history.opened ++ ids.map fun id => ⟨id, streamId, streamGroupId⟩ } := by
  unfold withOpened setRemote
  dsimp only
  cases m.notifyOnNewStreamsExplicitly with
  | false => rw [if_neg Bool.false_ne_true, if_neg Bool.false_ne_true, pushNewStreams_eq]
  | true => simp only [if_pos, listedFor_nil, List.append_nil]

/-! ### Callbacks -/

/-- A stream can be announced in its group if it is instantiated and has one. -/
theorem announceInGroup_eq_ok (hannounce : m.announceInGroup streamId = .ok m') :
    ∃ groupId, m.streams.lookup streamId = some (some groupId) ∧
      m' = { m with history.announced := m.history.announced ++ [(streamId, some groupId)] } := by
  unfold announceInGroup at hannounce
  rw [except_bind_eq_ok] at hannounce
  obtain ⟨⟨stream, got⟩, hget, hannounce⟩ := hannounce
  obtain ⟨-, hgets⟩ := gets_of_getOrCreatePeerStream hget
  cases hgets with
  | «exists» groupId found =>
    cases groupId with
    | none => cases hannounce
    | some groupId =>
      cases hannounce
      exact ⟨groupId, found, rfl⟩
  | instantiated absent isOpen => cases hannounce
  | closed notOpen seen => cases hannounce
  | opened absent unseen below => cases hannounce

theorem announceAll_eq_ok {ids : List StreamId}
    (hannounce : ids.foldlM announceInGroup m = .ok m') :
    ∃ entries : List (StreamId × Option StreamGroupId), entries.map Prod.fst = ids ∧
      (∀ p ∈ entries, p.2.isSome = true ∧ m.streams.lookup p.1 = some p.2) ∧
      m' = { m with history.announced := m.history.announced ++ entries } := by
  induction ids generalizing m with
  | nil =>
    cases hannounce
    refine ⟨[], rfl, List.forall_mem_nil _, ?_⟩
    rw [List.append_nil]
  | cons id ids ih =>
    rw [List.foldlM_cons, except_bind_eq_ok] at hannounce
    obtain ⟨u, hu, hrest⟩ := hannounce
    obtain ⟨groupId, hfind, rfl⟩ := announceInGroup_eq_ok hu
    obtain ⟨entries, hids, hentries, rfl⟩ := ih hrest
    refine ⟨(id, some groupId) :: entries, congrArg (id :: ·) hids, ?_, ?_⟩
    · exact List.forall_mem_cons.mpr ⟨⟨rfl, hfind⟩, hentries⟩
    · dsimp only
      rw [List.append_assoc]
      rfl

end PeerStreams

end MasqueQuic
