/-
Request bodies and datagrams of a stream.

`onBody` parses one buffer as one capsule and keeps nothing between calls.
`onBody_ok_iff` says on which bodies it returns, for every chain. Two
consequences follow. A list of capsules is handled as it was sent exactly when
each buffer holds one whole capsule. And the two ways to the tun device agree only
in part: a DATA capsule is written without a look at its context id, and only the
head of its chain is.
-/

import MasqueQuic.Masque.CapsuleEncoding
import MasqueQuic.Masque.Server

namespace MasqueQuic

/-! ### What the handler sends -/

section Handler

variable (platform : Platform)

theorem toBuffer_assignCapsule (alloc : Nat → Nat) (assignedIP : IPAddressV4)
    (requestIDs : List Nat) :
    ∃ buf, (assignCapsule assignedIP requestIDs).toBuffer alloc = .ok buf := by
  have hv4 : ∀ address ∈ requestIDs.map fun requestID => Address.mk requestID (.v4 assignedIP, 32),
      ∃ buf, address.toBuffer alloc = .ok buf ∧ buf.bytes = address.wireBytes := by
    intro address haddress
    obtain ⟨requestID, -, rfl⟩ := List.mem_map.mp haddress
    exact Address.toBuffer_v4 alloc requestID assignedIP 32
  obtain ⟨buf, hbuf, -⟩ := insertAll_spec alloc hv4
  exact ⟨_, by rw [assignCapsule, CapsuleOf.toBuffer, hbuf]; rfl⟩

theorem toBuffer_routeCapsule (alloc : Nat → Nat) :
    ∃ buf, routeCapsule.toBuffer alloc = .ok buf := by
  obtain ⟨buf, hbuf, -⟩ :=
    ranges_payload alloc [(.ofOctets 0 0 0 0, .ofOctets 255 255 255 255)]
  refine ⟨toBuffer alloc buf .ROUTE_ADVERTISEMENT, ?_⟩
  rw [routeCapsule, CapsuleOf.toBuffer]
  exact congrArg (· >>= fun buf => pure (toBuffer alloc buf .ROUTE_ADVERTISEMENT)) hbuf

/-- `actOn` stops for one reason: a request on a stream that has no address. It
never changes the map. -/
theorem actOn_ok_iff (stream : QuicStream) (capsule : Capsule) (s : Session) :
    (∃ s', actOn platform stream capsule s = .ok s') ↔
      (capsule.type = .ADDRESS_REQUEST → stream.properties.kind = .IP) := by
  obtain ⟨type, properties⟩ := stream
  cases capsule with
  | addressRequest addresses =>
    cases properties with
    | UDPProperties target =>
      simp [actOn, QuicStream.getIPProperties, bind, Except.bind, Properties.kind,
        CapsuleOf.type]
    | IPProperties assignedIP =>
      obtain ⟨assign, hassign⟩ := toBuffer_assignCapsule platform.alloc assignedIP
        (addresses.map (·.requestID))
      obtain ⟨route, hroute⟩ := toBuffer_routeCapsule platform.alloc
      simp [actOn, QuicStream.getIPProperties, sendCapsule, hassign, hroute, bind, Except.bind,
        pure, Except.pure, Properties.kind]
  | _ => simp [actOn, pure, Except.pure, CapsuleOf.type]

theorem sendCapsule_streamSocketMap {capsule : Capsule} {s s' : Session}
    (h : sendCapsule platform capsule s = .ok s') : s'.streamSocketMap = s.streamSocketMap := by
  simp only [sendCapsule, except_bind_eq_ok] at h
  obtain ⟨buf, -, h⟩ := h
  cases h
  rfl

theorem actOn_streamSocketMap {stream : QuicStream} {capsule : Capsule} {s s' : Session}
    (h : actOn platform stream capsule s = .ok s') : s'.streamSocketMap = s.streamSocketMap := by
  cases capsule with
  | addressRequest addresses =>
    simp only [actOn, except_bind_eq_ok] at h
    obtain ⟨assignedIP, -, u, hassign, hroute⟩ := h
    rw [sendCapsule_streamSocketMap platform hroute, sendCapsule_streamSocketMap platform hassign]
  | _ =>
    cases h
    rfl

theorem getStream_eq_ok {s : Session} {streamID : Nat} {stream : QuicStream} :
    s.getStream streamID = .ok stream ↔ s.streamSocketMap.lookup streamID = some stream := by
  unfold Session.getStream
  cases s.streamSocketMap.lookup streamID <;> simp

/-- What the switch acts on: known capsules only. -/
def actedOn : Option Capsule → Option Capsule
  | some (.unknown _) => none
  | capsule => capsule

section Stream

variable {platform} {streamID : Nat} {stream : QuicStream} {s : Session}
  (hstream : s.streamSocketMap.lookup streamID = some stream)

include hstream

theorem onBody_of_not_parses (hparses : stream.parsesBodies = false) (body : IOBuf) :
    onBody platform streamID body s = .ok (none, s) := by
  simp [onBody, getStream_eq_ok.mpr hstream, hparses, bind, Except.bind, pure, Except.pure]

/-- A body of a stream whose bodies are parsed. -/
theorem onBody_of_parses (hparses : stream.parsesBodies = true) (body : IOBuf)
    {acted : Option Capsule} {s' : Session} :
    onBody platform streamID body s = .ok (acted, s') ↔
      ∃ r, parseCapsule body = .ok r ∧ acted = actedOn r ∧
        match actedOn r with
        | none => s' = s
        | some capsule => actOn platform stream capsule s = .ok s' := by
  simp only [onBody, getStream_eq_ok.mpr hstream, hparses, bind, Except.bind, Bool.not_true,
    Bool.false_eq_true, if_false]
  cases parseCapsule body with
  | error fault => simp
  | ok r =>
    rcases r with _ | capsule
    · simp [actedOn, pure, Except.pure, eq_comm]
    · cases capsule with
      | unknown capsuleType => simp [actedOn, pure, Except.pure, eq_comm]
      | _ =>
        simp only [actedOn, Except.ok.injEq, exists_eq_left']
        cases hact : actOn platform stream _ s with
        | error fault => simp
        | ok u => simp [pure, Except.pure, eq_comm]

/-- `onBody` returns exactly when the parser does and there is an address to
answer a request with. -/
theorem onBody_ok_iff (body : IOBuf) :
    (∃ out, onBody platform streamID body s = .ok out) ↔
      stream.parsesBodies = false ∨ ∃ r, parseCapsule body = .ok r ∧
        ∀ capsule, r = some capsule → capsule.type = .ADDRESS_REQUEST →
          stream.properties.kind = .IP := by
  cases hparses : stream.parsesBodies with
  | false => simp [onBody_of_not_parses hstream hparses]
  | true =>
    simp only [Prod.exists, onBody_of_parses hstream hparses, Bool.true_eq_false, false_or]
    constructor
    · rintro ⟨acted, s', r, hr, rfl, hact⟩
      refine ⟨r, hr, ?_⟩
      rintro capsule rfl hrequest
      cases capsule with
      | addressRequest addresses => exact (actOn_ok_iff platform _ _ _).mp ⟨s', hact⟩ hrequest
      | _ => cases hrequest
    · rintro ⟨r, hr, hrequest⟩
      cases hacted : actedOn r with
      | none => exact ⟨none, s, r, hr, hacted.symm, by rw [hacted]⟩
      | some capsule =>
        have hcapsule : capsule.type = .ADDRESS_REQUEST → stream.properties.kind = .IP := by
          refine hrequest capsule ?_
          rcases r with _ | r
          · cases hacted
          · cases r with
            | unknown capsuleType => cases hacted
            | _ => exact hacted
        obtain ⟨s', hs'⟩ := (actOn_ok_iff platform stream capsule s).mpr hcapsule
        exact ⟨some capsule, s', r, hr, hacted.symm, by rw [hacted]; exact hs'⟩

end Stream

/-- The map is the same after a body. -/
theorem onBody_streamSocketMap {platform : Platform} {streamID : Nat} {body : IOBuf}
    {acted : Option Capsule} {s s' : Session}
    (h : onBody platform streamID body s = .ok (acted, s')) :
    s'.streamSocketMap = s.streamSocketMap := by
  have hget := h
  rw [onBody, except_bind_eq_ok] at hget
  obtain ⟨stream, hget, -⟩ := hget
  have hstream := getStream_eq_ok.mp hget
  cases hparses : stream.parsesBodies with
  | false =>
    rw [onBody_of_not_parses hstream hparses] at h
    cases h
    rfl
  | true =>
    obtain ⟨r, -, -, hact⟩ := (onBody_of_parses hstream hparses body).mp h
    cases hacted : actedOn r with
    | none =>
      rw [hacted] at hact
      rw [hact]
    | some capsule =>
      rw [hacted] at hact
      exact actOn_streamSocketMap platform hact

/-- And after a datagram. -/
theorem onDatagram_streamSocketMap {platform : Platform} {streamID : Nat} {datagram : IOBuf}
    {s s' : Session} (h : onDatagram platform streamID datagram s = .ok s') :
    s'.streamSocketMap = s.streamSocketMap := by
  simp only [onDatagram, except_bind_eq_ok] at h
  obtain ⟨stream, -, h⟩ := h
  split at h
  · rw [except_bind_eq_ok] at h
    obtain ⟨trimmed, -, h⟩ := h
    cases h
    rfl
  · cases h
    rfl

/-! ### One body -/

/-- On a CONNECT-IP stream, a body is handled without a fault exactly when the
stream drops bodies or the body, in its chain, is safe for the parser. -/
theorem onBody_returns_iff (platform : Platform) {s : Session} {streamID : Nat}
    {stream : QuicStream} (hstream : s.streamSocketMap.lookup streamID = some stream)
    (hip : stream.properties.kind = .IP) (body : IOBuf) :
    (∃ out, onBody platform streamID body s = .ok out) ↔
      stream.type = StreamType.UDP.code ∨ (SafeBody body.bytes ∧ HeaderInHead body) := by
  rw [onBody_ok_iff hstream, ← parseCapsule_chain_ok_iff, QuicStream.parsesBodies_eq_false]
  simp [hip]

/-- A session with one CONNECT-IP stream, under id 0. -/
def ipSession : Session where
  tunDevice := .ofSubnet .default
  streamSocketMap := [(0, .construct StreamType.IP.code (.IPProperties (.ofOctets 192 168 0 1)))]
  effects := []

/-- `10.0.0.1/32` under id 5 and `10.0.0.2/24` under id 70000, in a chain that is cut between them. -/
def twoAddresses : IOBuf :=
  ⟨⟨[1, 17, 5, 4, 10, 0, 0, 1, 32], 0, false⟩, [⟨[128, 1, 17, 112, 4, 10, 0, 0, 2, 24], 0, false⟩]⟩

theorem onBody_returns_example :
    (SafeBody twoAddresses.bytes ∧ HeaderInHead twoAddresses) ∧
      ∃ out, onBody samplePlatform 0 twoAddresses ipSession = .ok out := by
  have hsafe := parseCapsule_chain_ok_iff.mp ⟨some (.addressAssign
    [⟨5, .v4 (.ofOctets 10 0 0 1), 32⟩, ⟨70000, .v4 (.ofOctets 10 0 0 2), 24⟩]), show
      parseCapsule twoAddresses = .ok _ by decide +kernel⟩
  exact ⟨hsafe, (onBody_returns_iff samplePlatform (s := ipSession) rfl rfl _).mpr (.inr hsafe)⟩

/-- An ADDRESS_REQUEST without addresses fails a `CHECK`; an ADDRESS_ASSIGN that
ends inside its first entry reads past the end. -/
theorem onBody_stops :
    onBody samplePlatform 0 (.wrapBuffer [2, 0]) ipSession = .error .check ∧
      onBody samplePlatform 0 (.wrapBuffer [1, 2, 0, 4]) ipSession = .error .cursorEnd := by
  decide

/-! ### Two ways to the tun device -/

/-- The packets written to the tun device. -/
def Session.tunWrites (s : Session) : List Bytes :=
  s.effects.filterMap fun effect =>
    match effect with
    | .tunWrite packet => some packet
    | _ => none

theorem tunWrites_emit (s : Session) (packet : Bytes) :
    (s.emit (.tunWrite packet)).tunWrites = s.tunWrites ++ [packet] := by
  simp [Session.tunWrites, Session.emit]

/-- What a payload should put on the tun device: the bytes behind context id 0,
and nothing for another context. -/
def contextPackets (contextID : Nat) (data : Bytes) : List Bytes :=
  if contextID = 0 then [data] else []

section Paths

variable {platform} {streamID contextID : Nat} {stream : QuicStream} {s : Session}
  {x data : Bytes} (hstream : s.streamSocketMap.lookup streamID = some stream)
  (hip : stream.properties.kind = .IP) (hx : Varint contextID x)

/-- `parseContextID` decodes a varint: its value and its width. -/
def DecodesContextID (platform : Platform) : Prop :=
  ∀ bytes, platform.parseContextID bytes = decodeQuicInteger bytes sizeofUint64

include hstream hx in
/-- A datagram, however it is cut into elements: its payload goes upstream if the
context is 0 and is dropped if not. -/
theorem onDatagram_eq (hcontext : DecodesContextID platform) {datagram : IOBuf}
    (hbytes : datagram.bytes = x ++ data) :
    onDatagram platform streamID datagram s =
      .ok (if contextID = 0 then s.emit (stream.properties.write data) else s) := by
  have hparse : platform.parseContextID datagram.coalesce.head.data = some (contextID, x.length) := by
    rw [hcontext]
    change decodeQuicInteger datagram.bytes sizeofUint64 = _
    rw [hbytes, decodeQuicInteger_append hx]
  by_cases hzero : contextID = 0
  · subst hzero
    have htrim : datagram.coalesce.trimStart x.length = .ok
        ⟨⟨data, datagram.coalesce.head.tailroom, false⟩, []⟩ := by
      refine IOBuf.trimStart_eq_ok.mpr ⟨by simp [hbytes], ?_⟩
      simp [IOBuf.coalesce, hbytes]
    simp only [onDatagram, getStream_eq_ok.mpr hstream, hparse, htrim, bind, Except.bind]
    rfl
  · simp only [onDatagram, getStream_eq_ok.mpr hstream, hparse, bind, Except.bind, hzero, if_false]
    split
    · rename_i heq
      rw [Option.some.injEq, Prod.mk.injEq] at heq
      exact absurd heq.1 hzero
    · rfl

include hstream hip hx in
/-- Datagrams do what they should. -/
theorem onDatagram_tunWrites (hcontext : DecodesContextID platform) {datagram : IOBuf}
    (hbytes : datagram.bytes = x ++ data) :
    ∃ s', onDatagram platform streamID datagram s = .ok s' ∧
      s'.tunWrites = s.tunWrites ++ contextPackets contextID data := by
  refine ⟨_, onDatagram_eq hstream hx hcontext hbytes, ?_⟩
  unfold contextPackets
  split
  · obtain ⟨type, properties⟩ := stream
    cases properties with
    | UDPProperties target => cases hip
    | IPProperties assignedIP => exact tunWrites_emit s data
  · rw [List.append_nil]

include hx in
/-- A DATA capsule in any chain: both headers are trimmed off the head element. -/
theorem parseCapsule_data {body : IOBuf} {n : Nat} {t l : Bytes} (ht : Varint 0 t)
    (hl : Varint n l) (hbody : body.bytes = t ++ l ++ (x ++ data)) {r : Option Capsule} :
    parseCapsule body = .ok r ↔
      (t ++ l ++ x).length ≤ body.length ∧ r = some (.datagram
        { body with head := { body.head with data := body.head.data.drop (t ++ l ++ x).length } }) := by
  have hpayload : ∀ buf : IOBuf, parsePayload buf 0 (x ++ data) =
      buf.trimStart x.length >>= fun buf => pure (some (.datagram buf)) := by
    intro buf
    simp only [parsePayload, CapsuleType.ofCode, Cursor.decodeQuicInteger_append hx, bind,
      Except.bind]
  rw [parseCapsule_of_header ht hl hbody]
  simp only [except_bind_eq_ok, IOBuf.trimStart_eq_ok, hpayload, pure, Except.pure,
    Except.ok.injEq, List.length_append]
  constructor
  · rintro ⟨buf₁, ⟨hle₁, rfl⟩, buf₂, ⟨hle₂, rfl⟩, rfl⟩
    simp only [IOBuf.length, List.length_drop] at hle₁ hle₂ ⊢
    exact ⟨by omega, by rw [List.drop_drop]⟩
  · rintro ⟨hle, rfl⟩
    refine ⟨_, ⟨by omega, rfl⟩, _, ⟨?_, rfl⟩, ?_⟩
    · simp only [IOBuf.length, List.length_drop] at hle ⊢
      omega
    · simp only [List.drop_drop]

/-- What is left of the head element is the whole rest exactly when the chain has
no bytes behind its head. -/
theorem drop_head_eq_iff {body : IOBuf} {e : Bytes} (hbody : body.bytes = e ++ data)
    (hle : e.length ≤ body.length) :
    body.head.data.drop e.length = data ↔ body.length = body.computeChainDataLength := by
  have hdrop : body.head.data.drop e.length ++ body.next.flatMap (·.data) = data := by
    rw [← List.drop_append_of_le_length hle, ← IOBuf.bytes_eq, hbody, List.drop_left]
  rw [← IOBuf.length_bytes, IOBuf.bytes_eq, List.length_append]
  constructor
  · intro heq
    rw [heq, List.append_right_eq_self] at hdrop
    simp [hdrop, IOBuf.length]
  · intro hlen
    have hnil : body.next.flatMap (·.data) = [] :=
      List.eq_nil_of_length_eq_zero (by simp only [IOBuf.length] at hlen; omega)
    rwa [hnil, List.append_nil] at hdrop

variable (platform) in
include hstream in
/-- When a DATA capsule puts on the tun device what it should. -/
theorem onBody_tunWrites_iff {n : Nat} {t l : Bytes} (ht : Varint 0 t) (hl : Varint n l)
    (hx : Varint contextID x) {body : IOBuf} (hbody : body.bytes = t ++ l ++ (x ++ data)) :
    (∃ acted s', onBody platform streamID body s = .ok (acted, s') ∧
        s'.tunWrites = s.tunWrites ++ contextPackets contextID data) ↔
      (stream.parsesBodies = true ∧ contextID = 0 ∧ body.length = body.computeChainDataLength) ∨
        (stream.parsesBodies = false ∧ contextID ≠ 0) := by
  cases hparses : stream.parsesBodies with
  | false =>
    rw [onBody_of_not_parses hstream hparses]
    simp [contextPackets]
  | true =>
    have hassoc : body.bytes = (t ++ l ++ x) ++ data := by rw [hbody, List.append_assoc (t ++ l)]
    simp only [onBody_of_parses hstream hparses, parseCapsule_data hx ht hl hbody, true_and,
      Bool.true_eq_false, false_and, or_false]
    constructor
    · rintro ⟨acted, s', ⟨r, ⟨hle, rfl⟩, -, hact⟩, hwrites⟩
      cases hact
      rw [tunWrites_emit, List.append_cancel_left_eq, contextPackets] at hwrites
      by_cases hzero : contextID = 0
      · rw [if_pos hzero, List.cons.injEq] at hwrites
        exact ⟨hzero, (drop_head_eq_iff hassoc hle).mp hwrites.1⟩
      · rw [if_neg hzero] at hwrites
        cases hwrites
    · rintro ⟨rfl, hlen⟩
      have hle : (t ++ l ++ x).length ≤ body.length := by
        rw [hlen, ← IOBuf.length_bytes, hassoc]
        simp
      refine ⟨_, _, ⟨_, ⟨hle, rfl⟩, rfl, rfl⟩, ?_⟩
      rw [tunWrites_emit, (drop_head_eq_iff hassoc hle).mpr hlen]
      rfl

/-- The two ways agree, and do what they should, exactly when a payload of context
0 comes in a body whose chain has all its bytes in the first element, on a stream
that parses its bodies, or a payload of another context on one that drops them. -/
theorem upstreamPaths_agree_iff (platform : Platform) (hcontext : DecodesContextID platform)
    {s : Session} {streamID contextID : Nat} {stream : QuicStream}
    (hstream : s.streamSocketMap.lookup streamID = some stream)
    (hip : stream.properties.kind = .IP) {t l x data : Bytes} (ht : Varint 0 t)
    (hl : Varint (x ++ data).length l) (hx : Varint contextID x) {body datagram : IOBuf}
    (hbody : body.bytes = t ++ l ++ (x ++ data)) (hdatagram : datagram.bytes = x ++ data) :
    (∃ acted s₁ s₂, onBody platform streamID body s = .ok (acted, s₁) ∧
        onDatagram platform streamID datagram s = .ok s₂ ∧
        s₁.tunWrites = s.tunWrites ++ contextPackets contextID data ∧
        s₂.tunWrites = s.tunWrites ++ contextPackets contextID data) ↔
      (stream.type ≠ StreamType.UDP.code ∧ contextID = 0 ∧
          body.length = body.computeChainDataLength) ∨
        (stream.type = StreamType.UDP.code ∧ contextID ≠ 0) := by
  obtain ⟨s₂, hs₂, hwrites₂⟩ := onDatagram_tunWrites hstream hip hx hcontext hdatagram
  have hbody := onBody_tunWrites_iff platform hstream ht hl hx hbody
  rw [QuicStream.parsesBodies_eq_true, QuicStream.parsesBodies_eq_false] at hbody
  rw [← hbody]
  constructor
  · rintro ⟨acted, s₁, -, hs₁, -, hwrites₁, -⟩
    exact ⟨acted, s₁, hs₁, hwrites₁⟩
  · rintro ⟨acted, s₁, hs₁, hwrites₁⟩
    exact ⟨acted, s₁, s₂, hs₁, hs₂, hwrites₁, hwrites₂⟩

/-- A packet of two bytes under context 0, in one element. -/
theorem upstreamPaths_agree_example :
    ∃ acted s₁ s₂, onBody samplePlatform 0 (.wrapBuffer [0, 3, 0, 7, 8]) ipSession = .ok (acted, s₁) ∧
      onDatagram samplePlatform 0 (.wrapBuffer [0, 7, 8]) ipSession = .ok s₂ ∧
      s₁.tunWrites = ipSession.tunWrites ++ contextPackets 0 [7, 8] ∧
      s₂.tunWrites = ipSession.tunWrites ++ contextPackets 0 [7, 8] :=
  (upstreamPaths_agree_iff samplePlatform (fun _ => rfl) (s := ipSession) rfl rfl varint_zero
    (l := [3]) ⟨0, by decide, rfl, by decide, by decide⟩ varint_zero rfl rfl).mpr
    (.inl ⟨by decide, rfl, rfl⟩)

/-- Context 1: the capsule writes the packet, the datagram does not. -/
theorem upstreamPaths_disagree :
    ∃ acted s₁ s₂, onBody samplePlatform 0 (.wrapBuffer [0, 3, 1, 7, 8]) ipSession = .ok (acted, s₁) ∧
      onDatagram samplePlatform 0 (.wrapBuffer [1, 7, 8]) ipSession = .ok s₂ ∧
      s₁.tunWrites = [[7, 8]] ∧ s₂.tunWrites = [] ∧ contextPackets 1 [7, 8] = [] :=
  ⟨_, _, _, rfl, rfl, by decide, by decide, by decide⟩

end Paths

/-! ### Capsules over several bodies -/

/-- Deliver contiguous bodies one after the other: the capsules acted on, and the
bodies that were dropped. Nothing of a dropped body is kept for the next call. -/
def deliverBodies (platform : Platform) (streamID : Nat) :
    List Bytes → Session → Except Fault (List (CapsuleOf Bytes) × List Bytes × Session)
  | [], s => return ([], [], s)
  | body :: bodies, s => do
      let (acted, s) ← onBody platform streamID (.wrapBuffer body) s
      let (capsules, lost, s) ← deliverBodies platform streamID bodies s
      match acted with
      | some capsule => return (capsule.map IOBuf.bytes :: capsules, lost, s)
      | none => return (capsules, body :: lost, s)

/-- The buffer is taken as this capsule: a header of its type, and all the rest is
its payload. The declared length plays no part. -/
def TakenAs (c : CapsuleOf Bytes) (body : Bytes) : Prop :=
  c.type ≠ .UNKNOWN ∧ ∃ p, HasHeader body c.wireType p ∧ PayloadFormat c p

theorem map_bytes_wrapBuffer (c : CapsuleOf Bytes) : (c.map IOBuf.wrapBuffer).map IOBuf.bytes = c := by
  cases c <;> simp [CapsuleOf.map]

section Bodies

variable {platform} {streamID : Nat} {stream : QuicStream} {s : Session}

/-- One contiguous body on a CONNECT-IP stream. -/
theorem onBody_acted_iff (hstream : s.streamSocketMap.lookup streamID = some stream)
    (hip : stream.properties.kind = .IP) (hparses : stream.parsesBodies = true) {body : Bytes}
    {c : CapsuleOf Bytes} :
    (∃ capsule s', onBody platform streamID (.wrapBuffer body) s = .ok (some capsule, s') ∧
        capsule.map IOBuf.bytes = c) ↔ TakenAs c body := by
  simp only [onBody_of_parses hstream hparses]
  constructor
  · rintro ⟨capsule, s', ⟨r, hr, hacted, -⟩, rfl⟩
    rcases r with _ | r
    · cases hacted
    · obtain ⟨c, rfl, p, hp, hpayload⟩ := parseCapsule_capsule_iff.mp hr
      cases c with
      | unknown capsuleType => cases hacted
      | _ =>
        cases hacted
        rw [map_bytes_wrapBuffer]
        exact ⟨by simp [CapsuleOf.type], p, hp, hpayload⟩
  · rintro ⟨hknown, p, hp, hpayload⟩
    have hr := parseCapsule_capsule_iff.mpr ⟨c, rfl, p, hp, hpayload⟩
    obtain ⟨s', hs'⟩ :=
      (actOn_ok_iff platform stream (c.map .wrapBuffer) s).mpr fun _ => hip
    refine ⟨c.map .wrapBuffer, s', ⟨_, hr, ?_, ?_⟩, map_bytes_wrapBuffer c⟩
    · cases c with
      | unknown capsuleType => exact absurd rfl hknown
      | _ => rfl
    · cases c with
      | unknown capsuleType => exact absurd rfl hknown
      | _ => exact hs'

theorem deliverBodies_of_not_parses (hstream : s.streamSocketMap.lookup streamID = some stream)
    (hparses : stream.parsesBodies = false) (bodies : List Bytes) :
    deliverBodies platform streamID bodies s = .ok ([], bodies, s) := by
  induction bodies with
  | nil => rfl
  | cons body bodies ih =>
    rw [deliverBodies, onBody_of_not_parses hstream hparses]
    simp only [bind, Except.bind, ih]
    rfl

/-- Nothing is dropped exactly when every buffer is taken as a capsule. -/
theorem deliverBodies_of_parses (hstream : s.streamSocketMap.lookup streamID = some stream)
    (hip : stream.properties.kind = .IP) (hparses : stream.parsesBodies = true)
    {bodies : List Bytes} {cs : List (CapsuleOf Bytes)} :
    (∃ s', deliverBodies platform streamID bodies s = .ok (cs, [], s')) ↔
      List.Forall₂ TakenAs cs bodies := by
  induction bodies generalizing s cs with
  | nil =>
    constructor
    · rintro ⟨s', h⟩
      cases h
      exact .nil
    · intro h
      cases h
      exact ⟨s, rfl⟩
  | cons body bodies ih =>
    simp only [deliverBodies, except_bind_eq_ok, Prod.exists]
    constructor
    · rintro ⟨s', acted, s₁, hbody, capsules, lost, s₂, hrest, hout⟩
      rcases acted with _ | capsule
      · cases hout
      · cases hout
        have hstream₁ := hstream
        rw [← onBody_streamSocketMap hbody] at hstream₁
        exact .cons ((onBody_acted_iff hstream hip hparses).mp ⟨capsule, s₁, hbody, rfl⟩)
          ((ih hstream₁).mp ⟨s', hrest⟩)
    · intro h
      cases h with
      | cons hhead htail =>
        obtain ⟨capsule, s₁, hbody, rfl⟩ := (onBody_acted_iff hstream hip hparses).mpr hhead
        have hstream₁ := hstream
        rw [← onBody_streamSocketMap hbody] at hstream₁
        obtain ⟨s', hrest⟩ := (ih hstream₁).mpr htail
        exact ⟨s', some capsule, s₁, hbody, _, _, s', hrest, rfl⟩

end Bodies

/-- Two ways to cut the same bytes into buffers that are taken as the same
capsules are the same. -/
theorem bodies_unique {cs : List (CapsuleOf Bytes)} {bodies encs : List Bytes}
    (hbodies : List.Forall₂ TakenAs cs bodies) (hencs : List.Forall₂ TakenAs cs encs)
    (hcut : bodies.flatten = encs.flatten) : bodies = encs := by
  induction hbodies generalizing encs with
  | nil =>
    cases hencs
    rfl
  | @cons c body cs bodies htaken _ ih =>
    obtain _ | ⟨htaken', hencs'⟩ := hencs
    rename_i enc encs
    obtain ⟨hknown, p, ⟨n, t, l, ht, hl, rfl⟩, hp⟩ := htaken
    obtain ⟨-, p', ⟨n', t', l', ht', hl', rfl⟩, hp'⟩ := htaken'
    simp only [List.flatten_cons, List.append_assoc] at hcut
    -- The same type, the same length, and then the same payload.
    obtain ⟨-, rfl, hlength⟩ := Reads.varint.prefix_unique ht ht' hcut
    obtain ⟨-, rfl, hpayload⟩ := Reads.varint.prefix_unique hl hl' hlength
    obtain rfl := hp.unique hknown hp' hpayload
    rw [ih hencs' (List.append_cancel_left hpayload)]

/-- A list of capsules, cut into bodies in any way, is handled as it was sent
exactly when each body is one capsule and the stream parses its bodies. -/
theorem deliverBodies_iff (platform : Platform) {s : Session} {streamID : Nat}
    {stream : QuicStream} (hstream : s.streamSocketMap.lookup streamID = some stream)
    (hip : stream.properties.kind = .IP) {cs : List (CapsuleOf Bytes)} {encs bodies : List Bytes}
    (hencs : List.Forall₂ CapsuleFormat cs encs) (hknown : ∀ c ∈ cs, c.type ≠ .UNKNOWN)
    (hcut : bodies.flatten = encs.flatten) :
    (∃ s', deliverBodies platform streamID bodies s = .ok (cs, [], s')) ↔
      bodies = encs ∧ (cs = [] ∨ stream.type ≠ StreamType.UDP.code) := by
  have htaken : List.Forall₂ TakenAs cs encs := by
    clear hcut
    induction hencs with
    | nil => exact .nil
    | cons h _ ih =>
      obtain ⟨t, l, p, ht, hl, hp, rfl⟩ := h
      exact .cons ⟨hknown _ List.mem_cons_self, p, ⟨_, t, l, ht, hl, rfl⟩, hp⟩
        (ih fun c hc => hknown c (List.mem_cons_of_mem _ hc))
  cases hparses : stream.parsesBodies with
  | false =>
    rw [deliverBodies_of_not_parses hstream hparses]
    have hudp := QuicStream.parsesBodies_eq_false.mp hparses
    simp only [hudp, ne_eq, not_true_eq_false, or_false]
    constructor
    · rintro ⟨s', h⟩
      cases h
      cases hencs
      exact ⟨rfl, rfl⟩
    · rintro ⟨rfl, rfl⟩
      cases hencs
      exact ⟨s, rfl⟩
  | true =>
    have hudp := QuicStream.parsesBodies_eq_true.mp hparses
    rw [deliverBodies_of_parses hstream hip hparses]
    constructor
    · intro hbodies
      exact ⟨bodies_unique hbodies htaken hcut, .inr hudp⟩
    · rintro ⟨rfl, -⟩
      exact htaken

/-- A DATA capsule of one byte under context 0. -/
theorem capsuleFormat_datagram (b : UInt8) : CapsuleFormat (.datagram [b]) [0, 2, 0, b] := by
  have hlength : Varint 2 [2] := ⟨0, by decide, rfl, by decide, by decide⟩
  exact ⟨[0], [2], [0, b], varint_zero, hlength, ⟨0, [0], varint_zero, rfl⟩, rfl⟩

/-- Two capsules, each in a body of its own. -/
theorem deliverBodies_separate :
    ∃ s', deliverBodies samplePlatform 0 [[0, 2, 0, 7], [0, 2, 0, 8]] ipSession =
      .ok ([.datagram [7], .datagram [8]], [], s') :=
  (deliverBodies_iff samplePlatform (s := ipSession) rfl rfl
    (.cons (capsuleFormat_datagram 7) (.cons (capsuleFormat_datagram 8) .nil)) (by decide)
    rfl).mpr ⟨rfl, .inr (by decide)⟩

/-- Two capsules in one body: the second becomes part of the first. -/
theorem deliverBodies_coalesced :
    List.Forall₂ CapsuleFormat [.datagram [7], .datagram [8]] [[0, 2, 0, 7], [0, 2, 0, 8]] ∧
      [[0, 2, 0, 7], [0, 2, 0, 8]].flatten = [[0, 2, 0, 7, 0, 2, 0, 8]].flatten ∧
      (∃ s', deliverBodies samplePlatform 0 [[0, 2, 0, 7, 0, 2, 0, 8]] ipSession =
        .ok ([.datagram [7, 0, 2, 0, 8]], [], s')) ∧
      ¬ ∃ s', deliverBodies samplePlatform 0 [[0, 2, 0, 7, 0, 2, 0, 8]] ipSession =
        .ok ([.datagram [7], .datagram [8]], [], s') := by
  refine ⟨.cons (capsuleFormat_datagram 7) (.cons (capsuleFormat_datagram 8) .nil), rfl, ⟨_, rfl⟩, ?_⟩
  rintro ⟨s', h⟩
  cases h

end Handler

/-! ### The context id of a DATA capsule -/

/-- What is left of a DATA capsule has lost a type, a length and a context id. -/
theorem datagram_of_parseCapsule {body data : IOBuf} {t bs : Bytes} (ht : Varint 0 t)
    (hbody : body.bytes = t ++ bs) (h : parseCapsule body = .ok (some (.datagram data))) :
    ∃ n l contextID x, Varint n l ∧ Varint contextID x ∧ bs = l ++ (x ++ data.bytes) := by
  by_cases hheader : ∃ type p, HasHeader body.bytes type p
  · obtain ⟨type, p, n, t', l, ht', hl, hbytes⟩ := hheader
    rw [hbytes, List.append_assoc] at hbody
    obtain ⟨rfl, rfl, hrest⟩ := Reads.varint.prefix_unique ht' ht hbody
    cases hdecode : decodeQuicInteger p sizeofUint64 with
    | none =>
      rw [parseCapsule_of_header ht hl hbytes, except_bind_eq_ok] at h
      obtain ⟨datagram, -, h⟩ := h
      simp [parsePayload, CapsuleType.ofCode, Cursor.decodeQuicInteger, StateT.run, hdecode, bind,
        Except.bind, pure, Except.pure] at h
    | some result =>
      obtain ⟨contextID, width⟩ := result
      obtain ⟨x, rest, hx, -, rfl⟩ := varint_of_decodeQuicInteger hdecode
      obtain ⟨hle, hdata⟩ := (parseCapsule_data hx ht hl hbytes).mp h
      refine ⟨n, l, contextID, x, hl, hx, ?_⟩
      rw [← hrest]
      congr 2
      -- The three headers lie in the head, so the rest of the chain is what follows them.
      cases hdata
      have hall : body.bytes = (t' ++ l ++ x) ++ rest := by rw [hbytes, List.append_assoc _ x]
      rw [IOBuf.bytes_eq] at hall ⊢
      have hdrop := congrArg (List.drop (t' ++ l ++ x).length) hall
      rw [List.drop_left, List.drop_append_of_le_length hle] at hdrop
      exact hdrop.symm
  · rw [parseCapsule_of_no_header fun type p hp => hheader ⟨type, p, hp⟩] at h
    cases h

/-- However the encoding of a DATA capsule reaches the parser, what comes out is not what was
put in: the encoder writes no context id, and the parser takes one off. -/
theorem datagramCapsule_never_returns (alloc : Nat → Nat) (data : IOBuf) :
    ∃ out, (CapsuleOf.datagram data).toBuffer alloc = .ok out ∧
      ∀ body : IOBuf, body.bytes = out.bytes →
        ¬ ∃ data', parseCapsule body = .ok (some (.datagram data')) ∧ data'.bytes = data.bytes := by
  refine ⟨toBuffer alloc data.clone .DATA, rfl, ?_⟩
  rintro body hbody ⟨data', hparse, hsame⟩
  have hbytes := bytes_toBuffer alloc data.clone .DATA
  rw [← hbody, IOBuf.bytes_clone, List.append_assoc] at hbytes
  have htype := varint_code .DATA
  obtain ⟨n, l, contextID, x, hl, hx, hrest⟩ := datagram_of_parseCapsule htype hbytes hparse
  have hpos : 0 < x.length := by
    obtain ⟨k, -, hwidth, -⟩ := hx
    rw [hwidth]
    exact Nat.two_pow_pos k
  cases hencode : encodeQuicInteger data.clone.length with
  | none =>
    rw [hencode, Option.getD_none, List.nil_append] at hrest
    have hlength := congrArg List.length hrest
    rw [List.length_append, List.length_append, hsame] at hlength
    omega
  | some e =>
    rw [hencode, Option.getD_some] at hrest
    obtain ⟨-, -, htail⟩ :=
      Reads.varint.prefix_unique (encodeQuicInteger_varint hencode) hl hrest
    have hlength := congrArg List.length htail
    rw [List.length_append, hsame] at hlength
    omega

/-- The first of three bytes is taken for a context id. -/
theorem datagramCapsule_shortened :
    ∃ out data', (CapsuleOf.datagram (.wrapBuffer [1, 2, 3])).toBuffer id = .ok out ∧
      parseCapsule out.coalesce = .ok (some (.datagram data')) ∧ data'.bytes = [2, 3] ∧
      data'.bytes ≠ [1, 2, 3] :=
  ⟨_, _, rfl, rfl, rfl, by decide⟩

end MasqueQuic
