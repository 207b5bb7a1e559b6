/-
The upstream callbacks of the MASQUE server (`ConnectUDPCallback`, `ConnectIPCallback`,
`SharedTun`).

A callback holds a pointer to its transaction. That of a CONNECT-UDP stream is stored in the socket,
that of a CONNECT-IP stream in the map of the shared tun device. What arrives is copied into a
closure, which the event base of the transaction runs later: it calls `sendDatagram`. The handler
does nothing when its transaction ends, so sockets, map and queues stay as they are.

Transactions are named by `κ`, over all connections. `calls` lists the calls of `sendDatagram`, each
with whether its transaction was detached at that time, and `arrived` what has been handed to the
callbacks; nothing reads either.

`ProxyPlatform` collects what is not part of the program.
-/

import MasqueQuic.Masque.Server
import MasqueQuic.Lib.Run

namespace MasqueQuic

/-! ### The pieces -/

structure ProxyPlatform (κ β : Type) where
  /-- `IPAddressV4 + n` -/
  plus : IPAddressV4 → Nat → IPAddressV4
  /-- `MasqueService::prependContextID` -/
  prependContextID : Bytes → Nat → Bytes
  /-- `PacketTranslator::dstIP` -/
  dstIP : Bytes → Option Nat
  /-- the event base of the connection -/
  eventBase : κ → β

def readBufferSize : Nat := 2048

/-- `std::array<char, 2048>`. -/
abbrev ReadBuffer := ByteArrayN readBufferSize

/-- A datagram is read into the buffer: what does not fit is lost. -/
def ReadBuffer.read (buffer : ReadBuffer) (payload : Bytes) : ReadBuffer :=
  ⟨payload.take readBufferSize ++ buffer.val.drop payload.length, by
    rw [List.length_append, List.length_take, List.length_drop, buffer.property]
    omega⟩

/-- The `len` and the `truncated` that the socket reports. -/
def readLength (payload : Bytes) : Nat × Bool :=
  (min payload.length readBufferSize, decide (readBufferSize < payload.length))

theorem ReadBuffer.take_read (buffer : ReadBuffer) (payload : Bytes) :
    (buffer.read payload).val.take (readLength payload).1 = payload.take readBufferSize := by
  have hlength : (payload.take readBufferSize).length = (readLength payload).1 := by
    rw [List.length_take, readLength, Nat.min_comm]
  unfold ReadBuffer.read
  rw [← hlength, List.take_left]

structure SendClosure (κ : Type) where
  transaction : κ
  datagram : Bytes
  deriving DecidableEq

structure SendCall (κ : Type) where
  transaction : κ
  datagram : Bytes
  detached : Bool
  deriving DecidableEq

/-- The callback that a packet is handed to. -/
def SharedTun.callbackFor {κ : Type} (tun : SharedTun κ) (dstIP : Option Nat) : Option κ :=
  dstIP.bind fun ip => tun.streamMap.lookup ip

/-- `sockets` are those of the CONNECT-UDP streams, with the buffers of their callbacks. -/
structure Proxy (κ : Type) where
  tunDevice : SharedTun κ
  sockets : List (κ × ReadBuffer)
  attached : List κ
  detached : List κ
  queue : List (SendClosure κ)
  calls : List (SendCall κ)
  arrived : List (κ × Bytes)

inductive ProxyEvent (κ β : Type) where
  | acceptUDP (transaction : κ) (storage : ReadBuffer)
  | acceptIP (transaction : κ)
  | onEOM (transaction : κ)
  | onError (transaction : κ)
  | detachTransaction (transaction : κ)
  | udpDatagram (transaction : κ) (payload : Bytes)
  | tunPacket (packet : Bytes)
  | runClosure (base : β)

/-- Why an event does not happen: the process stops, or it is not one of this state. -/
inductive ProxyStop where
  | fault (fault : Fault)
  | impossible
  deriving DecidableEq

namespace Proxy

variable {κ β : Type} [DecidableEq κ] [DecidableEq β] (platform : ProxyPlatform κ β)

def ofSubnet (subnet : Subnet) : Proxy κ := ⟨.ofSubnet subnet, [], [], [], [], [], []⟩

/-! ### The steps -/

/-- The end of `onHeadersComplete` for a CONNECT-UDP request: the callback reads from the socket. -/
def acceptUDP (transaction : κ) (storage : ReadBuffer) (s : Proxy κ) : Proxy κ :=
  { s with
    sockets := s.sockets ++ [(transaction, storage)]
    attached := s.attached ++ [transaction] }

/-- The same for a CONNECT-IP request. -/
def acceptIP (transaction : κ) (s : Proxy κ) : Except Fault (Proxy κ) := do
  let (_, tunDevice) ← s.tunDevice.registerTransaction platform.plus transaction
  return { s with tunDevice := tunDevice, attached := s.attached ++ [transaction] }

/-- The handler's `onEOM` and `onError` write to the log. -/
def onEOM (s : Proxy κ) : Proxy κ := s

def onError (s : Proxy κ) : Proxy κ := s

/-- The handler's `detachTransaction` is empty; after it the transaction is gone. -/
def detachTransaction (transaction : κ) (s : Proxy κ) : Proxy κ :=
  { s with
    attached := s.attached.erase transaction
    detached := s.detached ++ [transaction] }

/-- `runInEventBaseThread` with a closure that holds a copy of the payload behind context id 0. -/
def forward (transaction : κ) (payload : Bytes) (s : Proxy κ) : Proxy κ :=
  { s with queue := s.queue ++ [⟨transaction, platform.prependContextID payload 0⟩] }

def arrive (transaction : κ) (payload : Bytes) (s : Proxy κ) : Proxy κ :=
  { s with arrived := s.arrived ++ [(transaction, payload)] }

/-- `ConnectUDPCallback::onDataAvailable`; `truncated` is not looked at. -/
def onDataAvailable (transaction : κ) (buffer : ReadBuffer) (len : Nat) (_truncated : Bool)
    (s : Proxy κ) : Proxy κ :=
  s.forward platform transaction (buffer.val.take len)

def setBuffer (transaction : κ) (buffer : ReadBuffer) (s : Proxy κ) : Proxy κ :=
  { s with sockets := s.sockets.map fun (socket : κ × ReadBuffer) =>
      if socket.1 = transaction then (transaction, buffer) else socket }

/-- The socket reads a datagram. -/
def udpDatagram (transaction : κ) (payload : Bytes) (s : Proxy κ) : Option (Proxy κ) :=
  (s.sockets.lookup transaction).map fun buffer =>
    let buffer := buffer.read payload
    let length := readLength payload
    onDataAvailable platform transaction buffer length.1 length.2
      ((s.setBuffer transaction buffer).arrive transaction payload)

/-- `SharedTun::onPacket` and `ConnectIPCallback::onPacket`. -/
def tunPacket (packet : Bytes) (s : Proxy κ) : Proxy κ :=
  match s.tunDevice.callbackFor (platform.dstIP packet) with
  | none => s
  | some transaction => (s.arrive transaction packet).forward platform transaction packet

/-- The closure calls `sendDatagram`. -/
def call (s : Proxy κ) (closure : SendClosure κ) : SendCall κ :=
  ⟨closure.transaction, closure.datagram, decide (closure.transaction ∈ s.detached)⟩

/-- An event base runs its next closure. -/
def runClosure (base : β) (s : Proxy κ) : Proxy κ :=
  match s.queue.find? fun closure => platform.eventBase closure.transaction = base with
  | none => s
  | some closure =>
      { s with
        queue := s.queue.eraseP fun closure => platform.eventBase closure.transaction = base
        calls := s.calls ++ [s.call closure] }

def step (s : Proxy κ) : ProxyEvent κ β → Except ProxyStop (Proxy κ)
  | .acceptUDP transaction storage =>
      if transaction ∈ s.attached ∨ transaction ∈ s.detached then .error .impossible
      else .ok (s.acceptUDP transaction storage)
  | .acceptIP transaction =>
      if transaction ∈ s.attached ∨ transaction ∈ s.detached then .error .impossible
      else
        match s.acceptIP platform transaction with
        | .error fault => .error (.fault fault)
        | .ok s' => .ok s'
  | .onEOM transaction => if transaction ∈ s.attached then .ok s.onEOM else .error .impossible
  | .onError transaction => if transaction ∈ s.attached then .ok s.onError else .error .impossible
  | .detachTransaction transaction =>
      if transaction ∈ s.attached then .ok (s.detachTransaction transaction)
      else .error .impossible
  | .udpDatagram transaction payload =>
      match s.udpDatagram platform transaction payload with
      | none => .error .impossible
      | some s' => .ok s'
  | .tunPacket packet => .ok (s.tunPacket platform packet)
  | .runClosure base => .ok (s.runClosure platform base)

/-! ### What the steps do -/

variable {platform} {s s' : Proxy κ} {transaction : κ}

omit [DecidableEq β] in
/-- What fits into the buffer is forwarded. -/
theorem udpDatagram_of_lookup {buffer : ReadBuffer} (h : s.sockets.lookup transaction = some buffer)
    (payload : Bytes) : s.udpDatagram platform transaction payload =
      some (((s.setBuffer transaction (buffer.read payload)).arrive transaction payload).forward
        platform transaction (payload.take readBufferSize)) := by
  unfold udpDatagram onDataAvailable
  rw [h, Option.map_some]
  dsimp only
  rw [ReadBuffer.take_read]

omit [DecidableEq κ] [DecidableEq β] in
theorem acceptIP_spec (h : s.acceptIP platform transaction = .ok s') :
    ∃ ip tunDevice, s.tunDevice.registerTransaction platform.plus transaction =
        .ok (ip, tunDevice) ∧
      s' = { s with tunDevice := tunDevice, attached := s.attached ++ [transaction] } := by
  unfold acceptIP at h
  rw [except_bind_eq_ok] at h
  obtain ⟨⟨ip, tunDevice⟩, hregister, hresult⟩ := h
  cases hresult
  exact ⟨ip, tunDevice, hregister, rfl⟩

/-- Run in the order of the queue, every closure calls `sendDatagram`. -/
theorem run_queue (platform : ProxyPlatform κ β) (s : Proxy κ) :
    ((s.queue.map fun closure => platform.eventBase closure.transaction).map
        ProxyEvent.runClosure).foldlM (step platform) s =
      .ok { s with queue := [], calls := s.calls ++ s.queue.map s.call } := by
  obtain ⟨tunDevice, sockets, attached, detached, queue, calls, arrived⟩ := s
  dsimp only
  induction queue generalizing calls with
  | nil =>
    rw [List.map_nil, List.map_nil, List.map_nil, List.append_nil]
    rfl
  | cons closure queue ih =>
    have hstep : step platform
        ⟨tunDevice, sockets, attached, detached, closure :: queue, calls, arrived⟩
        (.runClosure (platform.eventBase closure.transaction)) =
        .ok ⟨tunDevice, sockets, attached, detached, queue, calls ++ [⟨closure.transaction,
          closure.datagram, decide (closure.transaction ∈ detached)⟩], arrived⟩ := by
      dsimp only [step, runClosure]
      rw [List.find?_cons_of_pos (by simp), List.eraseP_cons_of_pos (by simp)]
      rfl
    rw [List.map_cons, List.map_cons, List.foldlM_cons, hstep]
    refine (ih _).trans ?_
    rw [List.append_assoc]
    rfl

end Proxy

/-- Streams are numbers, and there is one event base. -/
def ProxyPlatform.sample : ProxyPlatform Nat Unit where
  plus := plusHBO
  prependContextID payload contextID := (encodeQuicInteger contextID).getD [] ++ payload
  dstIP packet := if packet.length < 20 then none else some (beNat ((packet.drop 16).take 4))
  eventBase _ := ()

def ReadBuffer.zero : ReadBuffer := ⟨List.replicate readBufferSize 0, List.length_replicate⟩

end MasqueQuic
