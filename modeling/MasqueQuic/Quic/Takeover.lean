/-
The takeover of a socket: `TakeoverPacketHandler` and `TakeoverHandlerCallback`
(`quic/server/QuicServerPacketRouter.cpp`).

A datagram for the other server is the packet behind a header: the version of the protocol, the length
of the address and its `sockaddr`, and the time at which the packet came. `Encapsulates` says this;
`processForwardedPacket_eq_ok` that the other server takes exactly the datagrams of this form, and
`takeover_forwarding` that the packet, its address and its time come through and go no further.
-/

import MasqueQuic.Quic.ChainCursor
import MasqueQuic.Quic.PacketRouting

namespace MasqueQuic

/-- `TakeoverProtocolVersion::V0`. -/
def takeoverProtocol : Nat := 0x00000001

def kMaxBufSizeForTakeoverEncapsulation : Nat := 64

/-- Reads and writes outside what is there. -/
inductive TakeoverFault where
  | readPastEnd
  | sockaddrBuf
  | trimStart
  deriving DecidableEq

/-- The arguments of a call of `handleNetworkData`. -/
structure NetworkCall (α : Type) where
  client : α
  data : IOBuf
  packetReceiveTime : Int64
  isForwardedData : Bool

section Handler

variable {α : Type} (lib : SocketAddressLib α)

/-! ### Writing -/

def takeoverHeader (sockaddr : Bytes) (tick : Int64) : Bytes :=
  beBytes 4 takeoverProtocol ++ beBytes 2 sockaddr.length ++ sockaddr ++
    beBytes 8 tick.toUInt64.toNat

/-- The chain that is written to the socket. -/
def forwardPacketToAnotherServer (peerAddress : α) (data : IOBuf) (packetReceiveTime : Int64) :
    IOBuf :=
  (IOBuf.wrapBuffer (takeoverHeader (lib.getAddress peerAddress) packetReceiveTime)).prependChain
    data

/-! ### Reading -/

/-- `Cursor::readBE` of `n` bytes. -/
def takeoverRead (n : Nat) (cursor : ChainCursor) : Except TakeoverFault (Nat × ChainCursor) :=
  match cursor.pull n with
  | none => .error .readPastEnd
  | some r => .ok (beNat r.1, r.2)

/-- The bytes of the address: where they lie in one element they stay there, else they are copied to
`sockaddrBuf`. -/
def takeoverSockaddr (addrLen : Nat) (cursor : ChainCursor) :
    Except TakeoverFault (Option (Bytes × ChainCursor)) :=
  let cursor := cursor.peekBytes
  if addrLen ≤ (cursor.headD []).length then
    match cursor.pull addrLen with
    | none => .error .readPastEnd
    | some r => .ok (some r)
  else if cursor.canAdvance addrLen = false then .ok none
  else if kMaxBufSizeForTakeoverEncapsulation < addrLen then .error .sockaddrBuf
  else
    match cursor.pull addrLen with
    | none => .error .readPastEnd
    | some r => .ok (some r)

/-- `processForwardedPacket` behind the address. -/
def takeoverCall (peerAddress : α) (data : IOBuf) (cursor : ChainCursor) :
    Except TakeoverFault (Option (NetworkCall α)) :=
  if cursor.canAdvance 8 = false then .ok none
  else do
    let tick ← takeoverRead 8 cursor
    match data.trimStart (data.bytes.length - tick.2.bytes.length) with
    | .error _ => .error .trimStart
    | .ok packet => .ok (some ⟨peerAddress, packet, (UInt64.ofNat tick.1).toInt64, true⟩)

/-- `processForwardedPacket` behind the version. -/
def takeoverAddressed (data : IOBuf) (cursor : ChainCursor) :
    Except TakeoverFault (Option (NetworkCall α)) :=
  if cursor.canAdvance 2 = false then .ok none
  else do
    let addrLen ← takeoverRead 2 cursor
    if addrLen.1 > kMaxBufSizeForTakeoverEncapsulation then .ok none
    else do
      let sockaddr ← takeoverSockaddr addrLen.1 addrLen.2
      match sockaddr with
      | none => .ok none
      | some (address, cursor) =>
          match lib.setFromSockaddr address with
          | none => .ok none
          | some peerAddress => takeoverCall peerAddress data cursor

/-- The call that is made, or `none` for a packet that is dropped. -/
def processForwardedPacket (data : IOBuf) : Except TakeoverFault (Option (NetworkCall α)) :=
  let cursor := ChainCursor.ofBuf data
  if cursor.canAdvance 4 = false then .ok none
  else do
    let protocol ← takeoverRead 4 cursor
    if protocol.1 ≠ takeoverProtocol then .ok none
    else takeoverAddressed lib data protocol.2

/-- `onDataAvailable`, for a datagram that is read into the buffer of `getReadBuffer`. -/
def onDataAvailable (maxRecvPacketSize : Nat) (datagram : Bytes) :
    Except TakeoverFault (Option (NetworkCall α)) :=
  let truncated := maxRecvPacketSize + kMaxBufSizeForTakeoverEncapsulation < datagram.length
  if truncated then .ok none
  else processForwardedPacket lib (IOBuf.wrapBuffer datagram)

/-! ### The form of a datagram -/

/-- The datagram is the packet of the call, behind a header with its address and its time. -/
def Encapsulates (datagram : Bytes) (call : NetworkCall α) : Prop :=
  ∃ sockaddr, sockaddr.length ≤ kMaxBufSizeForTakeoverEncapsulation ∧
    lib.setFromSockaddr sockaddr = some call.client ∧
    datagram = takeoverHeader sockaddr call.packetReceiveTime ++ call.data.bytes

/-! ### Steps of the reader -/

variable {lib}

theorem takeoverRead_of_le {n : Nat} {cursor : ChainCursor} (h : n ≤ cursor.bytes.length) :
    ∃ cursor', takeoverRead n cursor = .ok (beNat (cursor.bytes.take n), cursor') ∧
      cursor.bytes = beBytes n (beNat (cursor.bytes.take n)) ++ cursor'.bytes := by
  obtain ⟨cursor', hpull, hrest⟩ := ChainCursor.pull_of_le h
  have hbytes := beBytes_beNat (cursor.bytes.take n)
  rw [List.length_take, Nat.min_eq_left h] at hbytes
  refine ⟨cursor', by rw [takeoverRead, hpull], ?_⟩
  rw [hbytes, hrest, List.take_append_drop]

theorem takeoverRead_append {n v : Nat} {cursor : ChainCursor} {rest : Bytes}
    (hv : v < 256 ^ n) (h : cursor.bytes = beBytes n v ++ rest) :
    ∃ cursor', takeoverRead n cursor = .ok (v, cursor') ∧ cursor'.bytes = rest := by
  have hle : n ≤ cursor.bytes.length := by simp [h]
  have htake : cursor.bytes.take n = beBytes n v := by
    rw [h]
    exact List.take_left' (length_beBytes n v)
  obtain ⟨cursor', hread, hrest⟩ := takeoverRead_of_le hle
  rw [htake, beNat_beBytes_of_lt hv] at hread hrest
  exact ⟨cursor', hread, List.append_cancel_left (hrest.symm.trans h)⟩

theorem takeoverSockaddr_of_le {addrLen : Nat} {cursor : ChainCursor}
    (hmax : addrLen ≤ kMaxBufSizeForTakeoverEncapsulation) (h : addrLen ≤ cursor.bytes.length) :
    ∃ cursor', takeoverSockaddr addrLen cursor = .ok (some (cursor.bytes.take addrLen, cursor')) ∧
      cursor'.bytes = cursor.bytes.drop addrLen := by
  rw [← ChainCursor.bytes_peekBytes] at h
  obtain ⟨cursor', hpull, hrest⟩ := ChainCursor.pull_of_le h
  have hcan : ¬ cursor.peekBytes.canAdvance addrLen = false := by
    rw [ChainCursor.canAdvance_eq_false_iff]
    exact Nat.not_lt.mpr h
  rw [ChainCursor.bytes_peekBytes] at hpull hrest
  refine ⟨cursor', ?_, hrest⟩
  unfold takeoverSockaddr
  dsimp only
  by_cases hhead : addrLen ≤ (cursor.peekBytes.headD []).length
  · rw [if_pos hhead, hpull]
  · rw [if_neg hhead, if_neg hcan, if_neg (Nat.not_lt.mpr hmax), hpull]

theorem takeoverSockaddr_of_lt {addrLen : Nat} {cursor : ChainCursor}
    (h : cursor.bytes.length < addrLen) : takeoverSockaddr addrLen cursor = .ok none := by
  rw [← ChainCursor.bytes_peekBytes] at h
  have hhead : ((cursor.peekBytes).headD []).length ≤ (cursor.peekBytes).bytes.length := by
    cases cursor.peekBytes with
    | nil => exact Nat.le_refl _
    | cons e rest => simp [ChainCursor.bytes]
  unfold takeoverSockaddr
  dsimp only
  rw [if_neg (by omega), if_pos (ChainCursor.canAdvance_eq_false_iff.mpr h)]

/-- What is left of a datagram behind the time is the packet. -/
theorem trimStart_takeover {header packet : Bytes} {cursor : ChainCursor}
    (h : cursor.bytes = packet) :
    (IOBuf.wrapBuffer (header ++ packet)).trimStart
      ((IOBuf.wrapBuffer (header ++ packet)).bytes.length - cursor.bytes.length) =
      .ok (IOBuf.wrapBuffer packet) := by
  rw [h, IOBuf.bytes_wrapBuffer, List.length_append, Nat.add_sub_cancel, IOBuf.trimStart_eq_ok]
  refine ⟨(Nat.le_add_right _ _).trans_eq List.length_append.symm, ?_⟩
  simp only [IOBuf.wrapBuffer, List.drop_left]

theorem takeoverCall_append {peerAddress : α} {header packet : Bytes} {tick : Int64}
    {cursor : ChainCursor} (h : cursor.bytes = beBytes 8 tick.toUInt64.toNat ++ packet) :
    takeoverCall peerAddress (IOBuf.wrapBuffer (header ++ cursor.bytes)) cursor =
      .ok (some ⟨peerAddress, IOBuf.wrapBuffer packet, tick, true⟩) := by
  obtain ⟨cursor', hread, hrest⟩ := takeoverRead_append tick.toUInt64.toNat_lt h
  have hcan : ¬ cursor.canAdvance 8 = false := by
    rw [ChainCursor.canAdvance_eq_false_iff, h, List.length_append, length_beBytes]
    omega
  unfold takeoverCall
  rw [if_neg hcan, hread, except_ok_bind, h, ← List.append_assoc]
  dsimp only
  rw [trimStart_takeover hrest, UInt64.ofNat_toNat, Int64.toInt64_toUInt64]

/-- The time is there, or the datagram is dropped. -/
theorem takeoverCall_cases (peerAddress : α) (data : IOBuf) (cursor : ChainCursor) :
    takeoverCall peerAddress data cursor = .ok none ∨
      ∃ tick : Int64, ∃ packet, cursor.bytes = beBytes 8 tick.toUInt64.toNat ++ packet := by
  by_cases hlt : cursor.bytes.length < 8
  · left
    rw [takeoverCall, if_pos (ChainCursor.canAdvance_eq_false_iff.mpr hlt)]
  · right
    obtain ⟨cursor', -, hrest⟩ := takeoverRead_of_le (Nat.not_lt.mp hlt)
    have hbound : beNat (cursor.bytes.take 8) < 2 ^ 64 := by
      have hbeNat := beNat_lt (cursor.bytes.take 8)
      rwa [List.length_take, Nat.min_eq_left (Nat.not_lt.mp hlt)] at hbeNat
    refine ⟨(UInt64.ofNat (beNat (cursor.bytes.take 8))).toInt64, cursor'.bytes, ?_⟩
    rwa [UInt64.toUInt64_toInt64, UInt64.toNat_ofNat_of_lt' hbound]

/-! ### The form is what is read -/

/-- A datagram of the form is taken. -/
theorem processForwardedPacket_of_encapsulates {datagram packet : Bytes} {address : α}
    {tick : Int64} (h : Encapsulates lib datagram ⟨address, IOBuf.wrapBuffer packet, tick, true⟩) :
    processForwardedPacket lib (IOBuf.wrapBuffer datagram) =
      .ok (some ⟨address, IOBuf.wrapBuffer packet, tick, true⟩) := by
  obtain ⟨sockaddr, hlength, haddress, hdatagram⟩ := h
  rw [IOBuf.bytes_wrapBuffer] at hdatagram
  have hlt : sockaddr.length < 256 ^ 2 := hlength.trans_lt (by decide)
  -- the cursor behind the version, behind the length and behind the address
  have hbytes : (ChainCursor.ofBuf (IOBuf.wrapBuffer datagram)).bytes =
      beBytes 4 takeoverProtocol ++ (beBytes 2 sockaddr.length ++ (sockaddr ++
        (beBytes 8 tick.toUInt64.toNat ++ packet))) := by
    simp only [ChainCursor.bytes_ofBuf, IOBuf.bytes_wrapBuffer, hdatagram, takeoverHeader,
      List.append_assoc]
  have hcan₁ : ¬ (ChainCursor.ofBuf (IOBuf.wrapBuffer datagram)).canAdvance 4 = false := by
    rw [ChainCursor.canAdvance_eq_false_iff, hbytes, List.length_append, length_beBytes]
    omega
  obtain ⟨c₁, hread₁, hc₁⟩ := takeoverRead_append (by decide) hbytes
  have hcan₂ : ¬ c₁.canAdvance 2 = false := by
    rw [ChainCursor.canAdvance_eq_false_iff, hc₁, List.length_append, length_beBytes]
    omega
  obtain ⟨c₂, hread₂, hc₂⟩ := takeoverRead_append hlt hc₁
  have hle : sockaddr.length ≤ c₂.bytes.length := by simp [hc₂]
  obtain ⟨c₃, hread₃, hc₃⟩ := takeoverSockaddr_of_le hlength hle
  rw [hc₂, List.take_left] at hread₃
  rw [hc₂, List.drop_left] at hc₃
  have hcall := @takeoverCall_append α address
    (beBytes 4 takeoverProtocol ++ beBytes 2 sockaddr.length ++ sockaddr) packet tick c₃ hc₃
  rw [hc₃, ← List.append_assoc, ← takeoverHeader, ← hdatagram] at hcall
  unfold processForwardedPacket
  dsimp only
  rw [if_neg hcan₁, hread₁, except_ok_bind, if_neg (not_not.mpr rfl)]
  unfold takeoverAddressed
  rw [if_neg hcan₂, hread₂, except_ok_bind, if_neg (Nat.not_lt.mpr hlength), hread₃,
    except_ok_bind]
  dsimp only
  rw [haddress]
  exact hcall

/-- Every other datagram is dropped. -/
theorem processForwardedPacket_cases (lib : SocketAddressLib α) (datagram : Bytes) :
    processForwardedPacket lib (IOBuf.wrapBuffer datagram) = .ok none ∨
      ∃ address packet tick,
        Encapsulates lib datagram ⟨address, IOBuf.wrapBuffer packet, tick, true⟩ := by
  unfold processForwardedPacket
  dsimp only
  split
  · exact .inl rfl
  next hcan₁ =>
    rw [ChainCursor.canAdvance_eq_false_iff] at hcan₁
    obtain ⟨c₁, hread₁, hc₁⟩ := takeoverRead_of_le (Nat.not_lt.mp hcan₁)
    rw [ChainCursor.bytes_ofBuf, IOBuf.bytes_wrapBuffer] at hread₁ hc₁
    rw [hread₁, except_ok_bind]
    split
    · exact .inl rfl
    next hprotocol =>
      have hprotocol : beNat (datagram.take 4) = takeoverProtocol := not_not.mp hprotocol
      rw [hprotocol] at hc₁
      unfold takeoverAddressed
      split
      · exact .inl rfl
      next hcan₂ =>
        rw [ChainCursor.canAdvance_eq_false_iff] at hcan₂
        obtain ⟨c₂, hread₂, hc₂⟩ := takeoverRead_of_le (Nat.not_lt.mp hcan₂)
        rw [hread₂, except_ok_bind]
        dsimp only
        generalize beNat (c₁.bytes.take 2) = addrLen at hc₂ ⊢
        split
        · exact .inl rfl
        next hmax =>
          have hmax := Nat.not_lt.mp hmax
          by_cases hle : addrLen ≤ c₂.bytes.length
          · obtain ⟨c₃, hread₃, hc₃⟩ := takeoverSockaddr_of_le hmax hle
            rw [hread₃, except_ok_bind]
            dsimp only
            cases haddress : lib.setFromSockaddr (c₂.bytes.take addrLen) with
            | none => exact .inl rfl
            | some address =>
              obtain hnone | ⟨tick, packet, hpacket⟩ :=
                takeoverCall_cases address (IOBuf.wrapBuffer datagram) c₃
              · exact .inl hnone
              · have htake : (c₂.bytes.take addrLen).length = addrLen := by
                  rw [List.length_take, Nat.min_eq_left hle]
                have hsplit : c₂.bytes = c₂.bytes.take addrLen ++
                    (beBytes 8 tick.toUInt64.toNat ++ packet) := by
                  rw [← hpacket, hc₃, List.take_append_drop]
                generalize c₂.bytes.take addrLen = sockaddr at haddress htake hsplit
                refine .inr ⟨address, packet, tick, sockaddr, htake.trans_le hmax, haddress, ?_⟩
                rw [hc₁, hc₂, hsplit, ← htake]
                simp only [takeoverHeader, IOBuf.bytes_wrapBuffer, List.append_assoc]
          · rw [takeoverSockaddr_of_lt (Nat.not_le.mp hle), except_ok_bind]
            exact .inl rfl

theorem processForwardedPacket_eq_ok {datagram : Bytes} {call : NetworkCall α} :
    processForwardedPacket lib (IOBuf.wrapBuffer datagram) = .ok (some call) ↔
      Encapsulates lib datagram call ∧ call.data = IOBuf.wrapBuffer call.data.bytes ∧
        call.isForwardedData = true := by
  constructor
  · intro hcall
    obtain hnone | ⟨address, packet, tick, hform⟩ := processForwardedPacket_cases lib datagram
    · rw [hnone] at hcall
      cases hcall
    · rw [processForwardedPacket_of_encapsulates hform] at hcall
      cases hcall
      exact ⟨hform, by rw [IOBuf.bytes_wrapBuffer], rfl⟩
  · obtain ⟨address, data, tick, isForwardedData⟩ := call
    rintro ⟨hform, hdata, rfl⟩
    dsimp only at hdata
    rw [hdata] at hform ⊢
    exact processForwardedPacket_of_encapsulates hform

end Handler

/-! ### `sockaddr_in` and `sockaddr_in6` -/

def kAfInet : Bytes := [2, 0]
def kAfInet6 : Bytes := [10, 0]

/-- The structures of Linux on a little-endian host: the family, the port, the flow label of IPv6, and
the address. -/
def inetSockaddr (address : SocketAddress) : Bytes :=
  match address.ip with
  | .empty => []
  | .v4 ip => kAfInet ++ beBytes 2 address.port ++ ip.addr.val ++ List.replicate 8 0
  | .v6 ip => kAfInet6 ++ beBytes 2 address.port ++ List.replicate 4 0 ++ ip.addr.val ++
      List.replicate 4 0

def setFromInetSockaddr (sockaddr : Bytes) : Option SocketAddress :=
  let port := beNat ((sockaddr.drop 2).take 2)
  if sockaddr.take 2 = kAfInet then
    let addr := (sockaddr.drop 4).take 4
    if h : addr.length = 4 then some ⟨.v4 ⟨⟨addr, h⟩⟩, port⟩ else none
  else if sockaddr.take 2 = kAfInet6 then
    let addr := (sockaddr.drop 8).take 16
    if h : addr.length = 16 then some ⟨.v6 ⟨⟨addr, h⟩⟩, port⟩ else none
  else none

def inetSocketAddressLib : SocketAddressLib SocketAddress where
  getAddress := inetSockaddr
  setFromSockaddr := setFromInetSockaddr
  isFamilyInet address := address.ip ≠ .empty && address.port < 256 ^ 2
  getIPAddress address := address.ip
  getPort address := some address.port

theorem setFromInetSockaddr_inetSockaddr {address : SocketAddress} (hip : address.ip ≠ .empty)
    (hport : address.port < 256 ^ 2) :
    setFromInetSockaddr (inetSockaddr address) = some address := by
  obtain ⟨ip, port⟩ := address
  have hportBytes := beNat_beBytes_of_lt hport
  obtain ⟨p, q, hpq⟩ := List.length_eq_two.mp (length_beBytes 2 port)
  dsimp only at hportBytes
  rw [hpq] at hportBytes
  cases ip with
  | empty => exact absurd rfl hip
  | v4 ip =>
    obtain ⟨⟨addr, haddr⟩⟩ := ip
    simp [setFromInetSockaddr, inetSockaddr, kAfInet, hpq, hportBytes, haddr]
  | v6 ip =>
    obtain ⟨⟨addr, haddr⟩⟩ := ip
    simp [setFromInetSockaddr, inetSockaddr, kAfInet, kAfInet6, hpq, hportBytes, haddr]

theorem inetSocketAddressLib_documented : inetSocketAddressLib.Documented where
  setFromSockaddr_getAddress := by
    intro address hinet
    simp only [inetSocketAddressLib, ne_eq, Bool.and_eq_true, decide_eq_true_eq] at hinet
    exact setFromInetSockaddr_inetSockaddr hinet.1 hinet.2
  length_getAddress_le := by
    intro address _
    unfold inetSocketAddressLib inetSockaddr
    dsimp only
    split
    · exact Nat.zero_le _
    · next ip _ => simp [kAfInet, ip.addr.property, sizeofSockaddrIn6]
    · next ip _ => simp [kAfInet6, ip.addr.property, sizeofSockaddrIn6]

/-! ### A takeover -/

/-- What is written is taken as it was, what is taken is what follows a header, and it goes no
further. -/
theorem takeover_forwarding {α : Type} {lib : SocketAddressLib α} (hlib : lib.Documented)
    (maxRecvPacketSize : Nat) :
    (∀ address data packetReceiveTime, lib.isFamilyInet address →
      data.bytes.length ≤ maxRecvPacketSize →
      onDataAvailable lib maxRecvPacketSize
        (forwardPacketToAnotherServer lib address data packetReceiveTime).bytes =
        .ok (some ⟨address, IOBuf.wrapBuffer data.bytes, packetReceiveTime, true⟩)) ∧
    (∀ datagram, onDataAvailable lib maxRecvPacketSize datagram = .ok none ∨
      ∃ call, onDataAvailable lib maxRecvPacketSize datagram = .ok (some call) ∧
        Encapsulates lib datagram call ∧ call.isForwardedData = true) ∧
    (∀ (worker : PacketWorker α) (server : PacketServer α) datagram call,
      onDataAvailable lib maxRecvPacketSize datagram = .ok (some call) →
      (worker.handleNetworkData lib server call.client call.data call.packetReceiveTime
        call.isForwardedData).isForwarded = false) ∧
    (∀ (worker : PacketWorker α) (server : PacketServer α) client routingData networkData
      quicVersion,
      (worker.forwardNetworkData lib server client routingData networkData quicVersion
        true).isForwarded = false ∧
      (worker.dispatchPacketData lib client routingData networkData quicVersion
        true).isForwarded = false) := by
  have hcases : ∀ datagram, onDataAvailable lib maxRecvPacketSize datagram = .ok none ∨
      ∃ call, onDataAvailable lib maxRecvPacketSize datagram = .ok (some call) ∧
        Encapsulates lib datagram call ∧ call.isForwardedData = true := by
    intro datagram
    unfold onDataAvailable
    dsimp only
    split
    · exact .inl rfl
    · obtain hnone | ⟨address, packet, tick, hform⟩ := processForwardedPacket_cases lib datagram
      · exact .inl hnone
      · exact .inr ⟨_, processForwardedPacket_of_encapsulates hform, hform, rfl⟩
  refine ⟨?_, hcases, ?_, ?_⟩
  · intro address data packetReceiveTime hinet hsize
    have hlength := hlib.length_getAddress_le address hinet
    unfold sizeofSockaddrIn6 at hlength
    have hbytes : (forwardPacketToAnotherServer lib address data packetReceiveTime).bytes =
        takeoverHeader (lib.getAddress address) packetReceiveTime ++ data.bytes := by
      simp only [forwardPacketToAnotherServer, IOBuf.bytes_prependChain, IOBuf.bytes_wrapBuffer]
    have hfits : ¬ maxRecvPacketSize + kMaxBufSizeForTakeoverEncapsulation <
        (takeoverHeader (lib.getAddress address) packetReceiveTime ++ data.bytes).length := by
      simp only [takeoverHeader, List.length_append, length_beBytes,
        kMaxBufSizeForTakeoverEncapsulation]
      omega
    unfold onDataAvailable
    dsimp only
    rw [hbytes, if_neg hfits]
    apply processForwardedPacket_of_encapsulates
    refine ⟨lib.getAddress address, hlength.trans (by decide),
      hlib.setFromSockaddr_getAddress address hinet, ?_⟩
    rw [IOBuf.bytes_wrapBuffer]
  · intro worker server datagram call hcall
    obtain hnone | ⟨call', hcall', -, hforwarded⟩ := hcases datagram
    · rw [hnone] at hcall
      cases hcall
    · rw [hcall] at hcall'
      cases hcall'
      rw [hforwarded]
      exact PacketWorker.handleNetworkData_not_forwarded ..
  · intro worker server client routingData networkData quicVersion
    exact ⟨PacketWorker.forwardNetworkData_not_forwarded ..,
      PacketWorker.dispatchPacketData_not_forwarded ..⟩

/-- An IPv6 client, and a packet in two parts. -/
theorem takeover_forwarding_ipv6 :
    onDataAvailable inetSocketAddressLib 1500
      (forwardPacketToAnotherServer inetSocketAddressLib
        ⟨.v6 ⟨⟨List.replicate 16 0xfd, rfl⟩⟩, 443⟩
        ⟨⟨[0x40, 0x01], 0, false⟩, [⟨[0x02], 0, false⟩]⟩ 7).bytes =
      .ok (some ⟨⟨.v6 ⟨⟨List.replicate 16 0xfd, rfl⟩⟩, 443⟩,
        IOBuf.wrapBuffer [0x40, 0x01, 0x02], 7, true⟩) :=
  (takeover_forwarding inetSocketAddressLib_documented 1500).1 _
    ⟨⟨[0x40, 0x01], 0, false⟩, [⟨[0x02], 0, false⟩]⟩ _ rfl (by decide)

end MasqueQuic
