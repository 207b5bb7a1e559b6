/-
UDP payloads end to end.

`Proxy.Faithful` says that each transaction is sent what has arrived for it, in order and each
payload whole behind context id 0. `ConnectUDPTunCallback` (`ConnectUDPClient.cpp`) is the other
end: it connects a tun device with the tunnel, and `Bridges` says that what comes out of the
tunnel reaches the tun device as a packet. `udpFidelity_iff` has both results: the proxy shortens
what its buffer does not hold, and the client writes payloads where it should write packets.
-/

import MasqueQuic.Masque.Callbacks

namespace MasqueQuic

/-! ### From the target to the tunnel -/

/-- The context id is put in front, as an integer of variable length. -/
def PrependsVarint (prependContextID : Bytes → Nat → Bytes) : Prop :=
  ∀ payload contextID encoded, encodeQuicInteger contextID = some encoded →
    prependContextID payload contextID = encoded ++ payload

namespace Proxy

variable {κ β : Type} [DecidableEq κ] {s s' : Proxy κ}

/-- The datagrams of a transaction, sent or still queued. -/
def datagramsFor (s : Proxy κ) (transaction : κ) : List Bytes :=
  (s.calls.filter fun call => call.transaction = transaction).map (·.datagram) ++
    (s.queue.filter fun closure => closure.transaction = transaction).map (·.datagram)

def payloadsFor (s : Proxy κ) (transaction : κ) : List Bytes :=
  (s.arrived.filter fun arrival => arrival.1 = transaction).map (·.2)

def Faithful (s : Proxy κ) : Prop :=
  ∀ transaction, s.datagramsFor transaction =
    (s.payloadsFor transaction).map fun payload => 0 :: payload

/-- The condition on an event: a UDP datagram fits into the buffer. -/
def FitsBuffer (s : Proxy κ) : ProxyEvent κ β → Prop
  | .udpDatagram transaction payload => (s.sockets.lookup transaction).isSome →
      payload.length ≤ readBufferSize
  | _ => True

instance (s : Proxy κ) : ∀ event : ProxyEvent κ β, Decidable (s.FitsBuffer event)
  | .udpDatagram _ payload => @instDecidableForall _ _ _ (Nat.decLe payload.length readBufferSize)
  | .acceptUDP _ _ => instDecidableTrue
  | .acceptIP _ => instDecidableTrue
  | .onEOM _ => instDecidableTrue
  | .onError _ => instDecidableTrue
  | .detachTransaction _ => instDecidableTrue
  | .tunPacket _ => instDecidableTrue
  | .runClosure _ => instDecidableTrue

/-- A payload that arrives and the closure that is queued for it. -/
theorem faithful_forward_iff {platform : ProxyPlatform κ β}
    (hprepend : PrependsVarint platform.prependContextID) (h : s.Faithful) (transaction : κ)
    (payload forwarded : Bytes) :
    ((s.arrive transaction payload).forward platform transaction forwarded).Faithful ↔
      forwarded = payload := by
  have hdatagram : platform.prependContextID forwarded 0 = 0 :: forwarded :=
    hprepend forwarded 0 [0] rfl
  unfold Faithful datagramsFor payloadsFor arrive forward at *
  dsimp only at h ⊢
  rw [hdatagram]
  constructor
  · intro hall
    have hthis := hall transaction
    rw [List.filter_append, List.filter_append, List.map_append, List.map_append, List.map_append,
      ← List.append_assoc, h transaction] at hthis
    have htail := List.append_cancel_left hthis
    simpa using htail
  · rintro rfl other
    rw [List.filter_append, List.filter_append, List.map_append, List.map_append, List.map_append,
      ← List.append_assoc, h other]
    by_cases hother : transaction = other
    · simp [hother]
    · simp [hother]

/-- A closure that runs moves from the queue to the calls: it is the first of its transaction. -/
theorem datagramsFor_runClosure [DecidableEq β] (platform : ProxyPlatform κ β) (base : β)
    (s : Proxy κ) (transaction : κ) :
    (s.runClosure platform base).datagramsFor transaction = s.datagramsFor transaction := by
  unfold runClosure
  split
  · rfl
  · next closure hfind =>
    obtain ⟨hbase, before, after, hqueue, hbefore⟩ := List.find?_eq_some_iff_append.mp hfind
    have hrest : (s.queue.eraseP fun closure => platform.eventBase closure.transaction = base) =
        before ++ after := by
      rw [hqueue, List.eraseP_append_right _ (by simpa using hbefore)]
      exact congrArg (before ++ ·) (List.eraseP_cons_of_pos hbase)
    unfold datagramsFor
    dsimp only
    rw [hrest, hqueue]
    by_cases htransaction : closure.transaction = transaction
    · have hnone : (before.filter fun closure => closure.transaction = transaction) = [] := by
        rw [List.filter_eq_nil_iff]
        intro other hother hsame
        have hne := hbefore other hother
        rw [of_decide_eq_true hsame, ← htransaction] at hne
        rw [hbase] at hne
        cases hne
      simp [call, htransaction, hnone]
    · simp [call, htransaction]

theorem faithful_runClosure [DecidableEq β] (platform : ProxyPlatform κ β) (base : β)
    (h : s.Faithful) : (s.runClosure platform base).Faithful := by
  intro transaction
  have harrived : (s.runClosure platform base).payloadsFor transaction =
      s.payloadsFor transaction := by
    unfold runClosure
    split
    · rfl
    · rfl
  rw [datagramsFor_runClosure, harrived]
  exact h transaction

theorem faithful_setBuffer (h : s.Faithful) (transaction : κ) (buffer : ReadBuffer) :
    (s.setBuffer transaction buffer).Faithful :=
  h

/-- What one event preserves. -/
theorem Faithful.step [DecidableEq β] {platform : ProxyPlatform κ β}
    (hprepend : PrependsVarint platform.prependContextID) (h : s.Faithful)
    {event : ProxyEvent κ β} (hfits : s.FitsBuffer event)
    (hstep : s.step platform event = .ok s') : s'.Faithful := by
  cases event with
  | acceptUDP transaction storage =>
    dsimp only [Proxy.step] at hstep
    split at hstep
    · cases hstep
    · cases hstep
      exact h
  | acceptIP transaction =>
    dsimp only [Proxy.step] at hstep
    split at hstep
    · cases hstep
    · split at hstep
      · cases hstep
      · next haccept =>
        cases hstep
        obtain ⟨_, _, -, rfl⟩ := acceptIP_spec haccept
        exact h
  | onEOM transaction =>
    dsimp only [Proxy.step] at hstep
    split at hstep
    · cases hstep
      exact h
    · cases hstep
  | onError transaction =>
    dsimp only [Proxy.step] at hstep
    split at hstep
    · cases hstep
      exact h
    · cases hstep
  | detachTransaction transaction =>
    dsimp only [Proxy.step] at hstep
    split at hstep
    · cases hstep
      exact h
    · cases hstep
  | udpDatagram transaction payload =>
    dsimp only [Proxy.step] at hstep
    cases hsocket : s.sockets.lookup transaction with
    | none =>
      unfold Proxy.udpDatagram at hstep
      rw [hsocket] at hstep
      cases hstep
    | some buffer =>
      rw [udpDatagram_of_lookup hsocket] at hstep
      cases hstep
      have hlength : payload.length ≤ readBufferSize := by
        apply hfits
        rw [hsocket]
        rfl
      rw [List.take_of_length_le hlength]
      exact (faithful_forward_iff hprepend (faithful_setBuffer h transaction _) transaction
        payload payload).mpr rfl
  | tunPacket packet =>
    cases hstep
    unfold Proxy.tunPacket
    split
    · exact h
    · next transaction hcallback =>
      exact (faithful_forward_iff hprepend h transaction packet packet).mpr rfl
  | runClosure base =>
    cases hstep
    exact faithful_runClosure platform base h

/-- A datagram that does not fit is forwarded without its end. -/
theorem not_faithful_of_not_fits [DecidableEq β] {platform : ProxyPlatform κ β}
    (hprepend : PrependsVarint platform.prependContextID) (h : s.Faithful)
    {event : ProxyEvent κ β} (hfits : ¬ s.FitsBuffer event) :
    ∃ s', s.step platform event = .ok s' ∧ ¬ s'.Faithful := by
  cases event with
  | acceptUDP transaction storage => exact absurd trivial hfits
  | acceptIP transaction => exact absurd trivial hfits
  | onEOM transaction => exact absurd trivial hfits
  | onError transaction => exact absurd trivial hfits
  | detachTransaction transaction => exact absurd trivial hfits
  | tunPacket packet => exact absurd trivial hfits
  | runClosure base => exact absurd trivial hfits
  | udpDatagram transaction payload =>
    unfold FitsBuffer at hfits
    rw [Classical.not_imp, Nat.not_le] at hfits
    obtain ⟨hsome, hlength⟩ := hfits
    obtain ⟨buffer, hsocket⟩ := Option.isSome_iff_exists.mp hsome
    dsimp only [Proxy.step]
    rw [udpDatagram_of_lookup hsocket]
    refine ⟨_, rfl, ?_⟩
    rw [faithful_forward_iff hprepend (faithful_setBuffer h transaction _)]
    intro hwhole
    have hshort := congrArg List.length hwhole
    rw [List.length_take] at hshort
    omega

end Proxy

/-! ### From the tunnel to the tun device -/

/-- An IPv4 header for a UDP datagram. -/
structure IPv4Header (src dst : IPAddressV4) (totalLength : Nat) (header : Bytes) : Prop where
  minimum : 20 ≤ header.length
  version : ∃ first, header.head? = some first ∧ first.toNat / 16 = 4 ∧
    header.length = 4 * (first.toNat % 16)
  total : beNat ((header.drop 2).take 2) = totalLength
  protocol : header[9]? = some 17
  source : (header.drop 12).take 4 = src.addr.val
  destination : (header.drop 16).take 4 = dst.addr.val

structure UDPHeader (srcPort dstPort totalLength : Nat) (header : Bytes) : Prop where
  length : header.length = 8
  source : beNat (header.take 2) = srcPort
  destination : beNat ((header.drop 2).take 2) = dstPort
  total : beNat ((header.drop 4).take 2) = totalLength

/-- The packet is an IPv4 packet with one UDP datagram. -/
def CarriesUDP (src dst : IPAddressV4) (srcPort dstPort : Nat) (payload packet : Bytes) : Prop :=
  ∃ ip udp, packet = ip ++ (udp ++ payload) ∧ IPv4Header src dst packet.length ip ∧
    UDPHeader srcPort dstPort (udp.length + payload.length) udp

/-- The packet library of the client. -/
structure PacketLibrary where
  /-- `Tins::IP(dst, src) / Tins::UDP(dport, sport) / Tins::RawPDU(payload)` -/
  udpPacket : IPAddressV4 → IPAddressV4 → Nat → Nat → Bytes → Bytes

structure UDPClientTUNOptions where
  sourcePort : Nat
  destinationPort : Nat

/-- `tunDevice` lists what has been written to the device, once there is one. -/
structure ConnectUDPTunCallback where
  tunDevice : Option (List Bytes)
  address : SocketAddress
  readBuffer : ReadBuffer
  tunOptions : UDPClientTUNOptions
  tunDeviceAddress : IPAddressV4

namespace ConnectUDPTunCallback

variable (lib : PacketLibrary)

/-- The packet is built, which needs an IPv4 target, but it is not what is written. -/
def onDataAvailable (len : Nat) (_truncated : Bool) (callback : ConnectUDPTunCallback) :
    Except Fault ConnectUDPTunCallback :=
  match callback.tunDevice with
  | none => .ok callback
  | some written =>
      match callback.address.ip with
      | .v6 _ | .empty => .error .addressFormat
      | .v4 target =>
          let _packet := lib.udpPacket callback.tunDeviceAddress target
            callback.tunOptions.sourcePort callback.tunOptions.destinationPort
            (callback.readBuffer.val.take len)
          .ok { callback with
            tunDevice := some (written ++ [callback.readBuffer.val.take len]) }

/-- The socket of the tunnel reads a payload. -/
def receive (payload : Bytes) (callback : ConnectUDPTunCallback) :
    Except Fault ConnectUDPTunCallback :=
  let length := readLength payload
  onDataAvailable lib length.1 length.2
    { callback with readBuffer := callback.readBuffer.read payload }

/-- The payload is written to the device, as one packet from the target. -/
def Bridges (callback : ConnectUDPTunCallback) (payload : Bytes) : Prop :=
  ∃ callback' written packet target, callback.receive lib payload = .ok callback' ∧
    callback.tunDevice = some written ∧ callback'.tunDevice = some (written ++ [packet]) ∧
    callback.address.ip = .v4 target ∧
    CarriesUDP target callback.tunDeviceAddress callback.tunOptions.destinationPort
      callback.tunOptions.sourcePort payload packet

variable {lib} {callback callback' : ConnectUDPTunCallback} {payload packet : Bytes}

/-- What is written is what has been read into the buffer. -/
theorem tunDevice_receive {written : List Bytes} (htun : callback.tunDevice = some written)
    (h : callback.receive lib payload = .ok callback') :
    callback'.tunDevice = some (written ++ [payload.take readBufferSize]) := by
  unfold receive onDataAvailable at h
  dsimp only at h
  rw [htun] at h
  dsimp only at h
  split at h
  · cases h
  · cases h
  · cases h
    dsimp only
    rw [ReadBuffer.take_read]

theorem length_of_carriesUDP {src dst : IPAddressV4} {srcPort dstPort : Nat}
    (h : CarriesUDP src dst srcPort dstPort payload packet) :
    payload.length + 28 ≤ packet.length := by
  obtain ⟨ip, udp, rfl, hip, hudp⟩ := h
  have hipLength := hip.minimum
  have hudpLength := hudp.length
  rw [List.length_append, List.length_append]
  omega

/-- No payload reaches the device as a packet. -/
theorem not_bridges (lib : PacketLibrary) (callback : ConnectUDPTunCallback) (payload : Bytes) :
    ¬ callback.Bridges lib payload := by
  rintro ⟨callback', written, packet, target, hreceive, htun, hwritten, -, hcarries⟩
  rw [tunDevice_receive htun hreceive, Option.some_inj] at hwritten
  have hpacket := List.head_eq_of_cons_eq (List.append_cancel_left hwritten)
  have hlength := length_of_carriesUDP hcarries
  rw [← hpacket, List.length_take] at hlength
  omega

end ConnectUDPTunCallback

/-- In every run of the proxy each transaction is sent what has arrived for it, whole and behind
context id 0, if and only if every UDP datagram fits into the buffer; and the client never writes a
packet to its tun device. -/
theorem udpFidelity_iff {κ β : Type} [DecidableEq κ] [DecidableEq β]
    (platform : ProxyPlatform κ β) (hprepend : PrependsVarint platform.prependContextID)
    (subnet : Subnet) (events : List (ProxyEvent κ β)) (lib : PacketLibrary) :
    ((∀ fs s, fs <+: events →
        fs.foldlM (Proxy.step platform) (.ofSubnet subnet) = .ok s → s.Faithful) ↔
      Meets (Proxy.step platform) Proxy.FitsBuffer (.ofSubnet subnet) events) ∧
    ∀ (callback : ConnectUDPTunCallback) payload, ¬ callback.Bridges lib payload := by
  constructor
  · refine @never_bad_iff_meets _ _ _ (Proxy.step platform) Proxy.FitsBuffer (fun _ => True)
      Proxy.Faithful ?_ ?_ ?_ _ _ trivial ?_
    · exact fun _ _ _ _ _ => trivial
    · exact fun s event s' _ h hfits hstep => h.step hprepend hfits hstep
    · exact fun s event _ h hfits => Proxy.not_faithful_of_not_fits hprepend h hfits
    · exact fun transaction => rfl
  · exact ConnectUDPTunCallback.not_bridges lib

/-- Packets without options and checksums. -/
def PacketLibrary.sample : PacketLibrary where
  udpPacket dst src dport sport payload :=
    [0x45, 0] ++ beBytes 2 (payload.length + 28) ++ [0, 0, 0, 0, 64, 17, 0, 0] ++ src.addr.val ++
      dst.addr.val ++ beBytes 2 sport ++ beBytes 2 dport ++ beBytes 2 (payload.length + 8) ++
      [0, 0] ++ payload

/-- One datagram that fits. -/
theorem udpFidelity_short :
    PrependsVarint ProxyPlatform.sample.prependContextID ∧
    ∀ fs s, fs <+: ([.acceptUDP 0 .zero, .udpDatagram 0 [7], .runClosure ()] :
        List (ProxyEvent Nat Unit)) →
      fs.foldlM (Proxy.step .sample) (.ofSubnet .default) = .ok s → s.Faithful := by
  have hprepend : PrependsVarint ProxyPlatform.sample.prependContextID := by
    intro payload contextID encoded hencoded
    unfold ProxyPlatform.sample
    dsimp only
    rw [hencoded, Option.getD_some]
  refine ⟨hprepend, (udpFidelity_iff .sample hprepend .default _ .sample).1.mpr ?_⟩
  decide +kernel

/-- The target sends a datagram of 2049 bytes, and the proxy queues one with 2048 of them. The
client writes a payload of one byte to the device as it is. -/
theorem udpFidelity_fails :
    (∃ s, ([.acceptUDP 0 .zero, .udpDatagram 0 (List.replicate 2049 7)] :
        List (ProxyEvent Nat Unit)).foldlM (Proxy.step .sample) (.ofSubnet .default) = .ok s ∧
      s.datagramsFor 0 = [0 :: List.replicate 2048 7] ∧ ¬ s.Faithful) ∧
    ∃ callback, ConnectUDPTunCallback.receive .sample [7]
        ⟨some [], ⟨.v4 (.ofOctets 10 0 0 1), 80⟩, .zero, ⟨1, 80⟩, .ofOctets 10 0 0 2⟩ =
          .ok callback ∧
      callback.tunDevice = some [[7]] ∧
      ¬ CarriesUDP (.ofOctets 10 0 0 1) (.ofOctets 10 0 0 2) 80 1 [7] [7] := by
  constructor
  · refine ⟨_, rfl, by decide +kernel, ?_⟩
    intro h
    exact absurd (h 0) (by decide +kernel)
  · refine ⟨_, rfl, by decide +kernel, ?_⟩
    intro h
    exact absurd (ConnectUDPTunCallback.length_of_carriesUDP h) (by decide)

end MasqueQuic
