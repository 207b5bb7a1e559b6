/-
Whole sessions of the MASQUE server.

A request is one `onHeadersComplete`; bodies and datagrams follow as callbacks.
`acceptedType` says which requests open a stream, as a function of the message
alone, and `onHeadersComplete_ok_iff` and `onHeadersComplete_map` are all that is
needed of `onHeadersComplete` after that. The two results are about runs: when no
callback of a transaction stops the process, and when the two discriminators of
every stream agree.
-/

import MasqueQuic.Lib.Run
import MasqueQuic.Masque.Bodies

namespace MasqueQuic

/-! ### Requests -/

/-- The type of the stream that a request opens; `none` if it is answered with 400. -/
def acceptedType (httpMessage : HTTPMessage) : Option StreamType :=
  match checkRequest httpMessage with
  | .ok .UDP => (pathArguments httpMessage.path).map fun _ => .UDP
  | .ok .IP => some .IP
  | .error _ => none

/-- The address that the next registration takes. -/
def SharedTun.nextAddress {κ : Type} (plus : IPAddressV4 → Nat → IPAddressV4)
    (tun : SharedTun κ) : IPAddressV4 :=
  plus tun.subnet.base tun.increment.subnetCounter

/-- The port is a number, the address parses, and the socket connects. -/
def TargetConnects (platform : Platform) (targetIP targetPort : Text) : Prop :=
  ∃ port ip, stoi targetPort = .ok port ∧ platform.parseIP targetIP = some ip ∧
    platform.connects ⟨ip, toPort port⟩ = true

/-- What an accepted request needs: a target that connects, or an address that is
still free. -/
def RequestSafe (platform : Platform) (httpMessage : HTTPMessage) (s : Session) : Prop :=
  match acceptedType httpMessage with
  | some .UDP => ∀ targetIP targetPort,
      pathArguments httpMessage.path = some (targetIP, targetPort) →
        TargetConnects platform targetIP targetPort
  | some .IP => s.tunDevice.isRegistered (s.tunDevice.nextAddress platform.plus) = false
  | none => True

section Requests

variable {platform : Platform} {streamID storage : Nat} {httpMessage : HTTPMessage} {s s' : Session}

theorem registerTransaction_ok_iff {κ : Type} (plus : IPAddressV4 → Nat → IPAddressV4)
    (tun : SharedTun κ) (callback : κ) :
    (∃ out, tun.registerTransaction plus callback = .ok out) ↔
      tun.isRegistered (tun.nextAddress plus) = false := by
  have hmap : tun.increment.increment.isRegistered (tun.nextAddress plus) =
      tun.isRegistered (tun.nextAddress plus) := rfl
  rw [← hmap]
  change (∃ out, (check (!tun.increment.increment.isRegistered (tun.nextAddress plus)) >>= fun _ =>
    pure (tun.nextAddress plus, tun.increment.increment.insert (tun.nextAddress plus) callback)) =
      .ok out) ↔ _
  cases tun.increment.increment.isRegistered (tun.nextAddress plus) <;>
    simp [check, bind, Except.bind, pure, Except.pure]

theorem createUDPStream_eq_ok {targetIP targetPort : Text} {stream : QuicStream} :
    createUDPStream platform targetIP targetPort storage = .ok stream ↔
      ∃ port ip, stoi targetPort = .ok port ∧ platform.parseIP targetIP = some ip ∧
        platform.connects ⟨ip, toPort port⟩ = true ∧
        stream = .construct storage (.UDPProperties ⟨ip, toPort port⟩) := by
  unfold createUDPStream
  constructor
  · intro h
    cases hport : stoi targetPort with
    | error fault => simp [hport, bind, Except.bind] at h
    | ok port =>
      cases hip : platform.parseIP targetIP with
      | none => simp [hport, hip, bind, Except.bind, throw, throwThe, MonadExceptOf.throw] at h
      | some ip =>
        cases hconnects : platform.connects ⟨ip, toPort port⟩ with
        | false =>
          simp [hport, hip, hconnects, bind, Except.bind, throw, throwThe,
            MonadExceptOf.throw] at h
        | true =>
          simp only [hport, hip, hconnects, bind, Except.bind, Bool.not_true,
            Bool.false_eq_true, if_false, pure, Except.pure, Except.ok.injEq] at h
          exact ⟨port, ip, rfl, rfl, hconnects, h.symm⟩
  · rintro ⟨port, ip, hport, hip, hconnects, rfl⟩
    simp [hport, hip, hconnects, bind, Except.bind, pure, Except.pure]

theorem onHeadersComplete_ip (hcheck : checkRequest httpMessage = .ok .IP) :
    onHeadersComplete platform streamID httpMessage storage s = .ok s' ↔
      ∃ assignedIP tunDevice buf,
        s.tunDevice.registerTransaction platform.plus streamID = .ok (assignedIP, tunDevice) ∧
        (assignCapsule assignedIP [0]).toBuffer platform.alloc = .ok buf ∧
        s' = (({ s with tunDevice := tunDevice } : Session).insertStream streamID
          (.construct storage (.IPProperties assignedIP))).replyWithSuccess.emit (.sendBody buf) := by
  unfold onHeadersComplete
  simp only [hcheck, except_bind_eq_ok, Prod.exists, sendCapsule, pure, Except.pure,
    Except.ok.injEq]
  constructor
  · rintro ⟨assignedIP, tunDevice, hregister, buf, hbuf, rfl⟩
    exact ⟨assignedIP, tunDevice, buf, hregister, hbuf, rfl⟩
  · rintro ⟨assignedIP, tunDevice, buf, hregister, hbuf, rfl⟩
    exact ⟨assignedIP, tunDevice, hregister, buf, hbuf, rfl⟩

/-- `onHeadersComplete` returns exactly on the requests that are safe. -/
theorem onHeadersComplete_ok_iff :
    (∃ s', onHeadersComplete platform streamID httpMessage storage s = .ok s') ↔
      RequestSafe platform httpMessage s := by
  unfold RequestSafe acceptedType
  cases hcheck : checkRequest httpMessage with
  | error errorMessage => simp [onHeadersComplete, hcheck, pure, Except.pure]
  | ok streamType =>
    cases streamType with
    | UDP =>
      cases hargs : pathArguments httpMessage.path with
      | none => simp [onHeadersComplete, hcheck, hargs, pure, Except.pure]
      | some args =>
        obtain ⟨targetIP, targetPort⟩ := args
        simp only [onHeadersComplete, hcheck, hargs, except_bind_eq_ok,
          createUDPStream_eq_ok, Option.map_some, Option.some.injEq, Prod.mk.injEq]
        constructor
        · rintro ⟨s', stream, ⟨port, ip, hport, hip, hconnects, -⟩, -⟩ _ _ ⟨rfl, rfl⟩
          exact ⟨port, ip, hport, hip, hconnects⟩
        · intro htarget
          obtain ⟨port, ip, hport, hip, hconnects⟩ := htarget targetIP targetPort ⟨rfl, rfl⟩
          exact ⟨_, _, ⟨port, ip, hport, hip, hconnects, rfl⟩, rfl⟩
    | IP =>
      simp only [onHeadersComplete_ip hcheck]
      rw [← registerTransaction_ok_iff _ _ streamID]
      constructor
      · rintro ⟨s', assignedIP, tunDevice, -, hregister, -⟩
        exact ⟨_, hregister⟩
      · rintro ⟨⟨assignedIP, tunDevice⟩, hregister⟩
        obtain ⟨buf, hbuf⟩ := toBuffer_assignCapsule platform.alloc assignedIP [0]
        exact ⟨_, assignedIP, tunDevice, buf, hregister, hbuf, rfl⟩

/-- What `onHeadersComplete` does to the map: an accepted request inserts a stream
of its kind, whose `type` is whatever the storage held. -/
theorem onHeadersComplete_map
    (h : onHeadersComplete platform streamID httpMessage storage s = .ok s') :
    match acceptedType httpMessage with
    | none => s'.streamSocketMap = s.streamSocketMap
    | some kind => ∃ properties : Properties, properties.kind = kind ∧
        s'.streamSocketMap =
          (s.insertStream streamID (.construct storage properties)).streamSocketMap := by
  unfold acceptedType
  cases hcheck : checkRequest httpMessage with
  | error errorMessage =>
    simp only [onHeadersComplete, hcheck] at h
    cases h
    rfl
  | ok streamType =>
    cases streamType with
    | UDP =>
      cases hargs : pathArguments httpMessage.path with
      | none =>
        simp only [onHeadersComplete, hcheck, hargs] at h
        cases h
        rfl
      | some args =>
        obtain ⟨targetIP, targetPort⟩ := args
        simp only [onHeadersComplete, hcheck, hargs, except_bind_eq_ok,
          createUDPStream_eq_ok] at h
        obtain ⟨stream, ⟨port, ip, -, -, -, rfl⟩, h⟩ := h
        cases h
        exact ⟨.UDPProperties ⟨ip, toPort port⟩, rfl, rfl⟩
    | IP =>
      obtain ⟨assignedIP, tunDevice, buf, -, -, rfl⟩ := (onHeadersComplete_ip hcheck).mp h
      refine ⟨.IPProperties assignedIP, rfl, ?_⟩
      simp only [Session.insertStream, Session.replyWithSuccess, Session.emit]
      split <;> rfl

end Requests

/-! ### One transaction -/

/-- The callbacks that follow the headers. -/
inductive Callback where
  | onBody (body : IOBuf)
  | onDatagram (datagram : IOBuf)

def Callback.run (platform : Platform) (streamID : Nat) (s : Session) :
    Callback → Except Fault Session
  | onBody body => do
      let (_, s) ← MasqueQuic.onBody platform streamID body s
      return s
  | onDatagram datagram => MasqueQuic.onDatagram platform streamID datagram s

/-- The headers of a request, then callbacks in any order. -/
def transaction (platform : Platform) (streamID : Nat) (httpMessage : HTTPMessage)
    (storage : Nat) (callbacks : List Callback) (s : Session) : Except Fault Session := do
  let s ← onHeadersComplete platform streamID httpMessage storage s
  callbacks.foldlM (Callback.run platform streamID) s

/-- The callbacks that a stream of a kind, with this word in its `type`, survives:
every datagram, and the bodies that are dropped or safe for the parser. A
CONNECT-UDP stream has no address to answer a request with. -/
def CallbackSafe (kind : StreamType) (storage : Nat) : Callback → Prop
  | .onBody body => storage = StreamType.UDP.code ∨ (SafeBody body.bytes ∧ HeaderInHead body ∧
      (kind = .UDP → ∀ p, ¬ HasHeader body.bytes CapsuleType.ADDRESS_REQUEST.code p))
  | .onDatagram _ => True

/-- The branch of a type returns a capsule of that type; only DATA may return none. -/
theorem parsePayload_type {datagram : IOBuf} {type : Nat} {p : Bytes} {r : Option Capsule}
    (h : parsePayload datagram type p = .ok r) :
    (∀ c, r = some c → c.type = CapsuleType.ofCode type) ∧
      (CapsuleType.ofCode type ≠ .DATA → r ≠ none) := by
  unfold parsePayload at h
  cases htype : CapsuleType.ofCode type with
  | DATA =>
    rw [htype] at h
    simp only [except_bind_eq_ok, Prod.exists] at h
    obtain ⟨contextID, cursor, -, h⟩ := h
    rcases contextID with _ | ⟨contextID, width⟩
    · cases h
      simp
    · simp only [except_bind_eq_ok] at h
      obtain ⟨data, -, h⟩ := h
      cases h
      simp [CapsuleOf.type]
  | ADDRESS_ASSIGN =>
    rw [htype] at h
    simp only [except_bind_eq_ok] at h
    obtain ⟨addresses, -, h⟩ := h
    cases h
    simp [CapsuleOf.type]
  | ADDRESS_REQUEST =>
    rw [htype] at h
    simp only [except_bind_eq_ok] at h
    obtain ⟨addresses, -, -, -, h⟩ := h
    cases h
    simp [CapsuleOf.type]
  | ROUTE_ADVERTISEMENT =>
    rw [htype] at h
    simp only [except_bind_eq_ok] at h
    obtain ⟨ranges, -, -, -, h⟩ := h
    cases h
    simp [CapsuleOf.type]
  | UNKNOWN =>
    rw [htype] at h
    cases h
    simp [CapsuleOf.type]

/-- A parsed body is a request exactly when its header says so. -/
theorem parseCapsule_request_iff {body : IOBuf} {r : Option Capsule} (h : parseCapsule body = .ok r) :
    (∃ c, r = some c ∧ c.type = .ADDRESS_REQUEST) ↔
      ∃ p, HasHeader body.bytes CapsuleType.ADDRESS_REQUEST.code p := by
  by_cases hheader : ∃ type p, HasHeader body.bytes type p
  · obtain ⟨type, p, hp⟩ := hheader
    obtain ⟨n, t, l, ht, hl, hbody⟩ := id hp
    rw [parseCapsule_of_header ht hl hbody, except_bind_eq_ok] at h
    obtain ⟨datagram, -, h⟩ := h
    obtain ⟨htype, hsome⟩ := parsePayload_type h
    constructor
    · rintro ⟨c, rfl, hc⟩
      rw [htype c rfl] at hc
      have hcode := CapsuleType.code_ofCode (by rw [hc]; decide)
      rw [hc] at hcode
      exact ⟨p, hcode ▸ hp⟩
    · rintro ⟨p', hp'⟩
      obtain ⟨rfl, rfl⟩ := hp.unique hp'
      rcases r with _ | c
      · exact absurd rfl (hsome (by decide))
      · exact ⟨c, rfl, htype c rfl⟩
  · have hnone : ∀ type p, ¬ HasHeader body.bytes type p := fun type p hp => hheader ⟨type, p, hp⟩
    rw [parseCapsule_of_no_header hnone] at h
    cases h
    simp [hnone]

section Callbacks

variable {platform : Platform} {streamID storage : Nat} {properties : Properties} {s : Session}
  (hstream : s.streamSocketMap.lookup streamID = some (.construct storage properties))

include hstream

variable (platform) in
theorem onBody_safe_iff (body : IOBuf) :
    (∃ out, onBody platform streamID body s = .ok out) ↔
      CallbackSafe properties.kind storage (.onBody body) := by
  rw [onBody_ok_iff hstream]
  have hparses : (QuicStream.construct storage properties).parsesBodies = false ↔
      storage = StreamType.UDP.code := QuicStream.parsesBodies_eq_false
  have hkind : properties.kind = .UDP ↔ properties.kind ≠ .IP := by
    cases properties <;> simp [Properties.kind]
  refine or_congr hparses ?_
  rw [← and_assoc, ← parseCapsule_chain_ok_iff]
  constructor
  · rintro ⟨r, hr, hrequest⟩
    refine ⟨⟨r, hr⟩, fun hudp p hp => ?_⟩
    obtain ⟨c, rfl, hc⟩ := (parseCapsule_request_iff hr).mpr ⟨p, hp⟩
    exact hkind.mp hudp (hrequest c rfl hc)
  · rintro ⟨⟨r, hr⟩, hrequest⟩
    refine ⟨r, hr, fun c hc htype => ?_⟩
    obtain ⟨p, hp⟩ := (parseCapsule_request_iff hr).mp ⟨c, hc, htype⟩
    by_contra hip
    exact hrequest (hkind.mpr hip) p hp

theorem onDatagram_ok (hcontext : DecodesContextID platform) (datagram : IOBuf) :
    ∃ s', onDatagram platform streamID datagram s = .ok s' := by
  cases hdecode : decodeQuicInteger datagram.bytes sizeofUint64 with
  | none =>
    have hparse : platform.parseContextID datagram.coalesce.head.data = none := by
      rw [hcontext]
      exact hdecode
    refine ⟨s, ?_⟩
    simp only [onDatagram, getStream_eq_ok.mpr hstream, hparse, bind, Except.bind]
    rfl
  | some result =>
    obtain ⟨x, data, hx, -, hbytes⟩ := varint_of_decodeQuicInteger hdecode
    exact ⟨_, onDatagram_eq hstream hx hcontext hbytes⟩

theorem callback_ok_iff (hcontext : DecodesContextID platform) (callback : Callback) :
    (∃ s', callback.run platform streamID s = .ok s') ↔
      CallbackSafe properties.kind storage callback := by
  cases callback with
  | onBody body =>
    refine Iff.trans ?_ (onBody_safe_iff platform hstream body)
    simp only [Callback.run, except_bind_eq_ok, Prod.exists]
    constructor
    · rintro ⟨s', acted, u, hu, -⟩
      exact ⟨acted, u, hu⟩
    · rintro ⟨acted, u, hu⟩
      exact ⟨u, acted, u, hu, rfl⟩
  | onDatagram datagram =>
    exact ⟨fun _ => trivial, fun _ => onDatagram_ok hstream hcontext datagram⟩

end Callbacks

theorem callback_streamSocketMap {platform : Platform} {streamID : Nat} {callback : Callback}
    {s s' : Session} (h : callback.run platform streamID s = .ok s') :
    s'.streamSocketMap = s.streamSocketMap := by
  cases callback with
  | onBody body =>
    simp only [Callback.run, except_bind_eq_ok, Prod.exists] at h
    obtain ⟨acted, u, hu, h⟩ := h
    cases h
    exact onBody_streamSocketMap hu
  | onDatagram datagram => exact onDatagram_streamSocketMap h

/-- A run of callbacks on a stream. -/
theorem callbacks_ok_iff {platform : Platform} (hcontext : DecodesContextID platform)
    {streamID storage : Nat} {properties : Properties} {s : Session}
    (hstream : s.streamSocketMap.lookup streamID = some (.construct storage properties))
    (callbacks : List Callback) :
    (∃ s', callbacks.foldlM (Callback.run platform streamID) s = .ok s') ↔
      ∀ callback ∈ callbacks, CallbackSafe properties.kind storage callback := by
  induction callbacks generalizing s with
  | nil => simp [pure, Except.pure]
  | cons callback callbacks ih =>
    rw [List.forall_mem_cons, ← callback_ok_iff hstream hcontext callback]
    simp only [List.foldlM_cons, except_bind_eq_ok]
    constructor
    · rintro ⟨s', u, hu, hrest⟩
      have hmap := callback_streamSocketMap hu
      exact ⟨⟨u, hu⟩, (ih (by rw [hmap]; exact hstream)).mp ⟨s', hrest⟩⟩
    · rintro ⟨⟨u, hu⟩, hrest⟩
      have hmap := callback_streamSocketMap hu
      obtain ⟨s', hs'⟩ := (ih (s := u) (by rw [hmap]; exact hstream)).mpr hrest
      exact ⟨s', u, hu, hs'⟩

/-- Without an entry in the map, the first callback stops. -/
theorem callbacks_of_no_stream {platform : Platform} {streamID : Nat} {s : Session}
    (hnone : s.streamSocketMap.lookup streamID = none) (callbacks : List Callback) :
    (∃ s', callbacks.foldlM (Callback.run platform streamID) s = .ok s') ↔ callbacks = [] := by
  have hfault : s.getStream streamID = .error .mapAt := by rw [Session.getStream, hnone]
  cases callbacks with
  | nil => simp [pure, Except.pure]
  | cons callback callbacks =>
    have hrun : callback.run platform streamID s = .error .mapAt := by
      cases callback with
      | onBody body => simp [Callback.run, onBody, hfault, bind, Except.bind]
      | onDatagram datagram => simp [Callback.run, onDatagram, hfault, bind, Except.bind]
    simp [List.foldlM_cons, hrun, bind, Except.bind]

theorem lookup_insertStream {s : Session} {streamID : Nat} (stream : QuicStream)
    (hfresh : s.streamSocketMap.lookup streamID = none) :
    (s.insertStream streamID stream).streamSocketMap = s.streamSocketMap ++ [(streamID, stream)] ∧
      (s.insertStream streamID stream).streamSocketMap.lookup streamID = some stream := by
  have hmap : (s.insertStream streamID stream).streamSocketMap =
      s.streamSocketMap ++ [(streamID, stream)] := by rw [Session.insertStream, hfresh]
  refine ⟨hmap, ?_⟩
  rw [hmap, List.lookup_append, hfresh]
  simp

/-- No callback of a transaction stops exactly when the request is safe and either
it was rejected and nothing follows, or every callback is one that its stream
survives. -/
theorem transaction_returns_iff (platform : Platform) (hcontext : DecodesContextID platform)
    (s : Session) (streamID : Nat) (hfresh : s.streamSocketMap.lookup streamID = none)
    (httpMessage : HTTPMessage) (storage : Nat) (callbacks : List Callback) :
    (∃ s', transaction platform streamID httpMessage storage callbacks s = .ok s') ↔
      RequestSafe platform httpMessage s ∧
        match acceptedType httpMessage with
        | none => callbacks = []
        | some kind => ∀ callback ∈ callbacks, CallbackSafe kind storage callback := by
  have hrun : ∀ u, onHeadersComplete platform streamID httpMessage storage s = .ok u →
      ((∃ s', callbacks.foldlM (Callback.run platform streamID) u = .ok s') ↔
        match acceptedType httpMessage with
        | none => callbacks = []
        | some kind => ∀ callback ∈ callbacks, CallbackSafe kind storage callback) := by
    intro u hu
    have hmap := onHeadersComplete_map hu
    cases haccepted : acceptedType httpMessage with
    | none =>
      rw [haccepted] at hmap
      exact callbacks_of_no_stream (by rw [hmap]; exact hfresh) callbacks
    | some kind =>
      rw [haccepted] at hmap
      obtain ⟨properties, rfl, hmap⟩ := hmap
      have hlookup := (lookup_insertStream (.construct storage properties) hfresh).2
      exact callbacks_ok_iff hcontext (by rw [hmap]; exact hlookup) callbacks
  constructor
  · rintro ⟨s', h⟩
    rw [transaction, except_bind_eq_ok] at h
    obtain ⟨u, hu, hrest⟩ := h
    exact ⟨onHeadersComplete_ok_iff.mp ⟨u, hu⟩, (hrun u hu).mp ⟨s', hrest⟩⟩
  · rintro ⟨hsafe, hcallbacks⟩
    obtain ⟨u, hu⟩ := onHeadersComplete_ok_iff.mpr hsafe
    obtain ⟨s', hs'⟩ := (hrun u hu).mpr hcallbacks
    refine ⟨s', ?_⟩
    rw [transaction, except_bind_eq_ok]
    exact ⟨u, hu, hs'⟩

/-- A new session. -/
def Session.start (subnet : Subnet) : Session := ⟨.ofSubnet subnet, [], []⟩

/-- A request with the headers that the server asks for. -/
def sampleRequest (method : HTTPMethod) (path : String) : HTTPMessage where
  method := some method
  upgradeProtocol := some "connect-udp".toList
  headers := [("host".toList, "proxy".toList), ("capsule-protocol".toList, "?1".toList)]
  path := path.toList

/-- A CONNECT-UDP request to `10.0.0.1:53`, then a datagram. -/
theorem transaction_returns_example :
    ∃ s', transaction samplePlatform 0
      (sampleRequest .CONNECT_UDP "/.well-known/masque/udp/10.0.0.1/53") 0
      [.onDatagram (.wrapBuffer [0, 7])] (.start .default) = .ok s' := by
  refine (transaction_returns_iff samplePlatform (fun _ => rfl) _ 0 rfl _ 0 _).mpr ⟨?_, ?_⟩
  · intro targetIP targetPort hargs
    have hpath : pathArguments "/.well-known/masque/udp/10.0.0.1/53".toList =
        some ("10.0.0.1".toList, "53".toList) := by decide
    rw [sampleRequest, hpath] at hargs
    cases hargs
    exact ⟨53, .v4 (.ofOctets 10 0 0 1), by decide, by decide, rfl⟩
  · have haccepted : acceptedType (sampleRequest .CONNECT_UDP
        "/.well-known/masque/udp/10.0.0.1/53") = some .UDP := by decide
    rw [haccepted]
    simp [CallbackSafe]

/-- A rejected request that is followed by a body stops the process, and so does a
port that is not a number. -/
theorem transaction_stops :
    transaction samplePlatform 0 (sampleRequest .GET "/") 0 [.onBody (.wrapBuffer [1, 0])]
        (.start .default) = .error .mapAt ∧
      transaction samplePlatform 0
        (sampleRequest .CONNECT_UDP "/.well-known/masque/udp/10.0.0.1/dns") 0 []
        (.start .default) = .error .invalidArgument := by
  decide

/-! ### Kinds of streams -/

/-- The two discriminators agree, and bodies are parsed on CONNECT-IP streams only. -/
def QuicStream.KindAgrees (stream : QuicStream) : Prop :=
  (stream.type = StreamType.UDP.code ↔ stream.properties.kind = .UDP) ∧
    (stream.type = StreamType.IP.code ↔ stream.properties.kind = .IP) ∧
    (stream.parsesBodies = true ↔ stream.properties.kind = .IP)

theorem QuicStream.kindAgrees_iff (stream : QuicStream) :
    stream.KindAgrees ↔ stream.type = stream.properties.kind.code := by
  unfold KindAgrees
  rw [QuicStream.parsesBodies_eq_true]
  cases stream.properties.kind with
  | UDP =>
    simp only [StreamType.code, reduceCtorEq, iff_false, iff_true, ne_eq]
    omega
  | IP =>
    simp only [StreamType.code, reduceCtorEq, iff_false, iff_true, ne_eq]
    omega

/-- What happens in a session. -/
inductive SessionEvent where
  | request (streamID : Nat) (httpMessage : HTTPMessage) (storage : Nat)
  | callback (streamID : Nat) (callback : Callback)

def Session.handle (platform : Platform) (s : Session) : SessionEvent → Except Fault Session
  | .request streamID httpMessage storage =>
      onHeadersComplete platform streamID httpMessage storage s
  | .callback streamID callback => callback.run platform streamID s

/-- An accepted request that opens a stream finds the word of its kind in the
storage of the stream object. -/
def StorageMatches (s : Session) : SessionEvent → Prop
  | .request streamID httpMessage storage => ∀ kind, acceptedType httpMessage = some kind →
      s.streamSocketMap.lookup streamID = none → storage = kind.code
  | .callback _ _ => True

/-- Every stream in the map. -/
def KindsAgree (s : Session) : Prop := ∀ entry ∈ s.streamSocketMap, entry.2.KindAgrees

/-- What an event does to the map: nothing, or it adds a stream whose `type` is the
word found in the storage. -/
theorem handle_map {platform : Platform} {s s' : Session} {event : SessionEvent}
    (h : s.handle platform event = .ok s') :
    (s'.streamSocketMap = s.streamSocketMap ∧ StorageMatches s event) ∨
      ∃ streamID storage properties,
        s'.streamSocketMap = s.streamSocketMap ++ [(streamID, .construct storage properties)] ∧
        (StorageMatches s event ↔ storage = properties.kind.code) := by
  cases event with
  | callback streamID callback => exact .inl ⟨callback_streamSocketMap h, trivial⟩
  | request streamID httpMessage storage =>
    have hmap := onHeadersComplete_map h
    cases haccepted : acceptedType httpMessage with
    | none =>
      rw [haccepted] at hmap
      refine .inl ⟨hmap, fun kind hkind => ?_⟩
      rw [haccepted] at hkind
      cases hkind
    | some kind =>
      rw [haccepted] at hmap
      obtain ⟨properties, rfl, hmap⟩ := hmap
      cases hlookup : s.streamSocketMap.lookup streamID with
      | some stream =>
        rw [Session.insertStream, hlookup] at hmap
        refine .inl ⟨hmap, fun kind _ hnone => ?_⟩
        rw [hlookup] at hnone
        cases hnone
      | none =>
        rw [(lookup_insertStream _ hlookup).1] at hmap
        refine .inr ⟨streamID, storage, properties, hmap, ?_⟩
        simp [StorageMatches, haccepted, hlookup]

/-- In every session, the discriminators of all streams agree exactly when every
request that opened a stream found the word of its kind in the storage. -/
theorem streamKinds_iff (platform : Platform) (subnet : Subnet) (events : List SessionEvent)
    {s : Session} (hrun : events.foldlM (Session.handle platform) (.start subnet) = .ok s) :
    KindsAgree s ↔ Meets (Session.handle platform) StorageMatches (.start subnet) events := by
  have hadd : ∀ {s s' : Session} {streamID storage : Nat} {properties : Properties},
      s'.streamSocketMap = s.streamSocketMap ++ [(streamID, .construct storage properties)] →
      (KindsAgree s' ↔ KindsAgree s ∧ storage = properties.kind.code) := by
    intro s s' streamID storage properties hmap
    rw [KindsAgree, hmap, List.forall_mem_append, List.forall_mem_singleton,
      QuicStream.kindAgrees_iff]
    rfl
  refine good_iff_meets ?_ ?_ (fun entry hentry => by cases hentry) hrun
  · intro s event s' h hs hmatches
    rcases handle_map h with ⟨hmap, -⟩ | ⟨streamID, storage, properties, hmap, hiff⟩
    · rwa [KindsAgree, hmap]
    · exact (hadd hmap).mpr ⟨hs, hiff.mp hmatches⟩
  · intro s event s' h hs'
    rcases handle_map h with ⟨hmap, hmatches⟩ | ⟨streamID, storage, properties, hmap, hiff⟩
    · rw [KindsAgree, hmap] at hs'
      exact ⟨hs', hmatches⟩
    · obtain ⟨hs, hstorage⟩ := (hadd hmap).mp hs'
      exact ⟨hs, hiff.mpr hstorage⟩

/-- A CONNECT-IP request whose stream object lies in storage that held 1. -/
theorem streamKinds_example :
    ∃ s, [SessionEvent.request 0 (sampleRequest .CONNECT_IP "/.well-known/masque/ip") 1].foldlM
        (Session.handle samplePlatform) (.start .default) = .ok s ∧ KindsAgree s := by
  refine ⟨_, rfl, (streamKinds_iff samplePlatform .default
    [.request 0 (sampleRequest .CONNECT_IP "/.well-known/masque/ip") 1] rfl).mpr ⟨?_, ?_⟩⟩
  · intro kind hkind _
    have haccepted : acceptedType (sampleRequest .CONNECT_IP "/.well-known/masque/ip") =
        some .IP := by decide
    rw [haccepted] at hkind
    cases hkind
    rfl
  · intro s' _
    exact trivial

/-- Fresh zeroed storage: the CONNECT-IP stream passes for a CONNECT-UDP stream and
its bodies are dropped. -/
theorem streamKinds_zeroed_fails :
    ∃ s stream,
      [SessionEvent.request 0 (sampleRequest .CONNECT_IP "/.well-known/masque/ip") 0].foldlM
        (Session.handle samplePlatform) (.start .default) = .ok s ∧
      s.streamSocketMap = [(0, stream)] ∧ stream.properties.kind = .IP ∧
      stream.type = StreamType.UDP.code ∧ stream.parsesBodies = false ∧ ¬ KindsAgree s := by
  refine ⟨_, _, rfl, rfl, rfl, rfl, rfl, fun hkinds => ?_⟩
  have hagrees := (hkinds _ List.mem_cons_self).1.mp rfl
  cases hagrees

end MasqueQuic
