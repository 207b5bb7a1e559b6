/-
Packets that arrive twice.

`updateLargestReceivedPacketNum` notices that a packet number was there before, and
counts it; `onServerReadDataFromOpen` runs the frame loop all the same. This module
models what the loop does with DATAGRAM, KNOB, PATH_CHALLENGE and NEW_CONNECTION_ID
frames. The handlers of all other frames work on the received packet numbers, from which
an ACK frame withdraws those that the peer knows to be acknowledged, and on the rest of
the connection (`ρ`). None of the four frames reads either; the other handlers are a
parameter.

`log` lists what a packet has done that the application or the peer can see: datagrams
put into the read buffer, knobs queued, connection ids switched. A packet leaves the log
alone exactly when the loop reaches no frame that would add to it.
-/

import MasqueQuic.Quic.BufQueue
import MasqueQuic.Quic.Frames
import MasqueQuic.Quic.QuicException

namespace MasqueQuic

structure DatagramState where
  maxReadFrameSize : Nat
  maxReadBufferSize : Nat
  readBuffer : List (Nat × BufQueue)

/-- Visible effects of received frames. -/
inductive ReadEffect where
  | datagram (data : BufQueue)
  | knob (frame : KnobFrame)
  | switched (connId : ConnectionId)
  deriving DecidableEq

/-- What the frame loop of the server works on. -/
structure ServerConn (ρ : Type) where
  datagramState : DatagramState
  recvDropOldDataFirst : Bool
  knobs : List KnobFrame
  frames : List QuicSimpleFrame
  clientConnectionId : Option ConnectionId
  peerConnectionIds : List ConnectionIdData
  selfActiveConnectionIdLimit : Nat
  acks : List Nat
  duplicatedPackets : Nat
  rest : ρ
  log : List ReadEffect

/-- A frame of a 1-RTT packet. -/
inductive ReadFrame (φ : Type) where
  | datagram (data : BufQueue)
  | knob (frame : KnobFrame)
  | pathChallenge (pathData : Nat)
  | newConnectionId (frame : NewConnectionIdFrame)
  | connectionClose
  | other (frame : φ)

structure RegularQuicPacket (φ : Type) where
  packetNum : Nat
  receiveTime : Nat
  frames : List (ReadFrame φ)

/-- How the switch over a frame is left: the loop goes on, the function returns, or an
exception leaves it. -/
inductive Flow (σ : Type) where
  | next (s : σ)
  | return (s : σ)
  | throw (e : QuicException) (s : σ)

def Flow.state {σ : Type} : Flow σ → σ
  | .next s => s
  | .return s => s
  | .throw _ s => s

namespace ServerConn

variable {ρ φ : Type}

def updateLargestReceivedPacketNum (c : ServerConn ρ) (packetNum : Nat) : ServerConn ρ :=
  if c.acks.contains packetNum then { c with duplicatedPackets := c.duplicatedPackets + 1 }
  else { c with acks := packetNum :: c.acks }

/-- Whether `handleDatagram` puts a datagram into the read buffer. -/
def takesDatagram (c : ServerConn ρ) : Bool :=
  c.datagramState.maxReadFrameSize != 0 &&
    (c.datagramState.readBuffer.length < c.datagramState.maxReadBufferSize ||
      c.recvDropOldDataFirst)

def handleDatagram (c : ServerConn ρ) (data : BufQueue) (receiveTime : Nat) : ServerConn ρ :=
  let put (readBuffer : List (Nat × BufQueue)) : ServerConn ρ :=
    { c with
      datagramState := { c.datagramState with readBuffer := readBuffer ++ [(receiveTime, data)] }
      log := c.log ++ [.datagram data] }
  if c.datagramState.maxReadFrameSize = 0 then c
  else if c.datagramState.readBuffer.length ≥ c.datagramState.maxReadBufferSize then
    if ¬ c.recvDropOldDataFirst then c else put c.datagramState.readBuffer.tail
  else put c.datagramState.readBuffer

/-- The first id of the peer that is not in use. -/
def replacementConnId (c : ServerConn ρ) (mainPeerId : ConnectionId) : Option ConnectionIdData :=
  c.peerConnectionIds.find? (·.connId != mainPeerId)

/-- `none` stands for the result `false`. -/
def retireAndSwitchPeerConnectionIds (c : ServerConn ρ) :
    Except QuicException (Option (ServerConn ρ)) :=
  match c.clientConnectionId with
  | none => .error (.transport "Attempting to retire null peer conn id" .internalError)
  | some mainPeerId =>
      match c.replacementConnId mainPeerId with
      | none => .ok none
      | some replacement =>
          let current := c.peerConnectionIds.find? (·.connId == mainPeerId)
          .ok (some { c with
            frames := c.frames ++ current.toList.map (.retireConnectionId ·.sequenceNumber)
            clientConnectionId := some replacement.connId
            peerConnectionIds := c.peerConnectionIds.eraseP (·.connId == mainPeerId)
            log := c.log ++ [.switched replacement.connId] })

def onPathChallenge (c : ServerConn ρ) (pathData : Nat) : Flow (ServerConn ρ) :=
  match c.retireAndSwitchPeerConnectionIds with
  | .error e => .throw e c
  | .ok none => .throw (.transport "No more connection ids to use for new path."
      .invalidMigration) c
  | .ok (some c) => .next { c with frames := c.frames ++ [.pathResponse pathData] }

def onNewConnectionId (c : ServerConn ρ) (frame : NewConnectionIdFrame) : Flow (ServerConn ρ) :=
  if frame.retirePriorTo > frame.sequenceNumber then
    .throw (.transport "Retire prior to greater than sequence number" .protocolViolation) c
  else
    match c.peerConnectionIds.find? (·.connId == frame.connectionId) with
    | some existing =>
        if existing.sequenceNumber ≠ frame.sequenceNumber then
          .throw (.transport "Repeated connection id with different sequence number."
            .protocolViolation) c
        else .next c
    | none =>
        if c.clientConnectionId.all (·.length == 0) then
          .throw (.transport "Endpoint is already using 0-len connection ids."
            .protocolViolation) c
        else if c.peerConnectionIds.length = c.selfActiveConnectionIdLimit + 1 then .next c
        else
          .next { c with peerConnectionIds := c.peerConnectionIds ++
            [⟨frame.connectionId, frame.sequenceNumber, some frame.token⟩] }

/-- The handlers of all other frames. -/
abbrev OtherHandlers (φ ρ : Type) := φ → List Nat × ρ → Except QuicException (List Nat × ρ)

/-- The switch of the frame loop. -/
def handleFrame (other : OtherHandlers φ ρ) (receiveTime : Nat) (c : ServerConn ρ) :
    ReadFrame φ → Flow (ServerConn ρ)
  | .datagram data => .next (c.handleDatagram data receiveTime)
  | .knob frame => .next { c with knobs := c.knobs ++ [frame], log := c.log ++ [.knob frame] }
  | .pathChallenge pathData => c.onPathChallenge pathData
  | .newConnectionId frame => c.onNewConnectionId frame
  | .connectionClose => .return c
  | .other frame =>
      match other frame (c.acks, c.rest) with
      | .error e => .throw e c
      | .ok (acks, rest) => .next { c with acks, rest }

def frameLoop (other : OtherHandlers φ ρ) (receiveTime : Nat) :
    ServerConn ρ → List (ReadFrame φ) → Flow (ServerConn ρ)
  | c, [] => .next c
  | c, frame :: frames =>
      match c.handleFrame other receiveTime frame with
      | .next c => frameLoop other receiveTime c frames
      | out => out

/-- `onServerReadDataFromOpen` for a packet that has been decrypted, up to the end of the
frame loop. -/
def onServerReadPacket (other : OtherHandlers φ ρ) (c : ServerConn ρ)
    (packet : RegularQuicPacket φ) : Flow (ServerConn ρ) :=
  frameLoop other packet.receiveTime (c.updateLargestReceivedPacketNum packet.packetNum)
    packet.frames

/-! ### What adds to the log -/

/-- The frame does nothing that can be seen in this state. -/
def Silent (c : ServerConn ρ) : ReadFrame φ → Prop
  | .datagram _ => c.takesDatagram = false
  | .knob _ => False
  | .pathChallenge _ => ∀ mainPeerId ∈ c.clientConnectionId, c.replacementConnId mainPeerId = none
  | _ => True

/-- Every frame that the loop reaches is silent. -/
def SilentLoop (other : OtherHandlers φ ρ) (receiveTime : Nat) :
    ServerConn ρ → List (ReadFrame φ) → Prop
  | _, [] => True
  | c, frame :: frames =>
      c.Silent frame ∧
        ∀ c', c.handleFrame other receiveTime frame = .next c' →
          SilentLoop other receiveTime c' frames

variable {other : OtherHandlers φ ρ} {receiveTime : Nat} {c : ServerConn ρ}

theorem log_handleDatagram (data : BufQueue) :
    (c.handleDatagram data receiveTime).log =
      if c.takesDatagram then c.log ++ [.datagram data] else c.log := by
  unfold handleDatagram takesDatagram
  by_cases hoff : c.datagramState.maxReadFrameSize = 0
  · simp [hoff]
  · by_cases hfull : c.datagramState.readBuffer.length ≥ c.datagramState.maxReadBufferSize
    · have hnot : ¬ c.datagramState.readBuffer.length < c.datagramState.maxReadBufferSize := by
        omega
      cases hdrop : c.recvDropOldDataFirst with
      | true => simp [hoff, hfull]
      | false => simp [hoff, hfull, hnot]
    · have hroom : c.datagramState.readBuffer.length < c.datagramState.maxReadBufferSize := by
        omega
      simp [hoff, hfull, hroom]

theorem log_onPathChallenge (pathData : Nat) :
    (c.onPathChallenge pathData).state.log =
      c.log ++ (c.clientConnectionId.bind c.replacementConnId).toList.map (.switched ·.connId) := by
  unfold onPathChallenge retireAndSwitchPeerConnectionIds
  cases hid : c.clientConnectionId with
  | none => simp [Flow.state]
  | some mainPeerId =>
    cases hnew : c.replacementConnId mainPeerId with
    | none => simp [Flow.state, hnew]
    | some replacement => simp [Flow.state, hnew]

theorem log_onNewConnectionId (frame : NewConnectionIdFrame) :
    (c.onNewConnectionId frame).state.log = c.log := by
  unfold onNewConnectionId
  repeat' split
  all_goals rfl

/-- A frame adds to the log what it shows, or leaves it as it is when it is silent. -/
theorem log_handleFrame (frame : ReadFrame φ) :
    ∃ effects, (c.handleFrame other receiveTime frame).state.log = c.log ++ effects ∧
      (effects = [] ↔ c.Silent frame) := by
  cases frame with
  | datagram data =>
    refine ⟨if c.takesDatagram then [.datagram data] else [], ?_, ?_⟩
    · refine (log_handleDatagram data).trans ?_
      cases c.takesDatagram <;> simp
    · cases htakes : c.takesDatagram <;> simp [Silent, htakes]
  | knob frame => exact ⟨[.knob frame], rfl, by simp [Silent]⟩
  | pathChallenge pathData =>
    refine ⟨_, log_onPathChallenge pathData, ?_⟩
    cases hid : c.clientConnectionId with
    | none => simp [Silent, hid]
    | some mainPeerId => simp [Silent, hid]
  | newConnectionId frame =>
    refine ⟨[], ?_, by simp [Silent]⟩
    rw [List.append_nil]
    exact log_onNewConnectionId frame
  | connectionClose => exact ⟨[], (List.append_nil _).symm, by simp [Silent]⟩
  | other frame =>
    refine ⟨[], ?_, by simp [Silent]⟩
    rw [List.append_nil, handleFrame]
    split <;> rfl

/-- The loop adds to the log; it adds nothing exactly when all it reaches is silent. -/
theorem log_frameLoop (frames : List (ReadFrame φ)) :
    ∃ effects, (frameLoop other receiveTime c frames).state.log = c.log ++ effects ∧
      (effects = [] ↔ SilentLoop other receiveTime c frames) := by
  induction frames generalizing c with
  | nil => exact ⟨[], (List.append_nil _).symm, by simp [SilentLoop]⟩
  | cons frame frames ih =>
    obtain ⟨shown, hlog, hsilent⟩ := @log_handleFrame _ _ other receiveTime c frame
    rw [frameLoop, SilentLoop]
    cases hflow : c.handleFrame other receiveTime frame with
    | next c' =>
      rw [hflow] at hlog
      obtain ⟨later, hlater, hsilent'⟩ := ih (c := c')
      refine ⟨shown ++ later, ?_, ?_⟩
      · rw [← List.append_assoc, ← hlog]
        exact hlater
      · rw [List.append_eq_nil_iff, hsilent, hsilent']
        refine and_congr_right fun _ => ⟨fun h c'' hc'' => ?_, fun h => h c' rfl⟩
        cases hc''
        exact h
    | «return» c' =>
      rw [hflow] at hlog
      exact ⟨shown, hlog, hsilent.trans ⟨fun h => ⟨h, nofun⟩, fun h => h.1⟩⟩
    | throw e c' =>
      rw [hflow] at hlog
      exact ⟨shown, hlog, hsilent.trans ⟨fun h => ⟨h, nofun⟩, fun h => h.1⟩⟩

theorem log_updateLargestReceivedPacketNum (packetNum : Nat) :
    (c.updateLargestReceivedPacketNum packetNum).log = c.log := by
  unfold updateLargestReceivedPacketNum
  split <;> rfl

/-- A packet changes nothing that can be seen exactly when every frame that the loop reaches is
silent in the state in which it is reached. The state is any, so this holds of a packet that comes
again, whether its number is still among the received ones or has been withdrawn from them. -/
theorem duplicate_harmless_iff (other : OtherHandlers φ ρ) (c : ServerConn ρ)
    (packet : RegularQuicPacket φ) :
    (c.onServerReadPacket other packet).state.log = c.log ↔
      SilentLoop other packet.receiveTime (c.updateLargestReceivedPacketNum packet.packetNum)
        packet.frames := by
  obtain ⟨effects, hlog, hsilent⟩ := @log_frameLoop _ _ other packet.receiveTime
    (c.updateLargestReceivedPacketNum packet.packetNum) packet.frames
  rw [onServerReadPacket, hlog, log_updateLargestReceivedPacketNum, ← hsilent]
  exact List.append_right_eq_self

/-- A connection that has received nothing and keeps one datagram for the application. -/
def oneDatagram : ServerConn Unit where
  datagramState := ⟨100, 1, []⟩
  recvDropOldDataFirst := false
  knobs := []
  frames := []
  clientConnectionId := some [1]
  peerConnectionIds := [⟨[1], 0, none⟩]
  selfActiveConnectionIdLimit := 2
  acks := []
  duplicatedPackets := 0
  rest := ()
  log := []

/-- What happens to a packet that comes twice, when no other frames do anything. -/
def receiveTwice (c : ServerConn Unit) (packet : RegularQuicPacket Unit) :
    ServerConn Unit × ServerConn Unit :=
  let first := (c.onServerReadPacket (fun _ rest => .ok rest) packet).state
  (first, (first.onServerReadPacket (fun _ rest => .ok rest) packet).state)

-- A datagram that fills the read buffer is dropped when it comes again.
example :
    let data := BufQueue.ofBuf (.ofElems [⟨[5], 0, false⟩])
    let (first, second) := oneDatagram.receiveTwice ⟨7, 0, [.datagram data]⟩
    first.log.length = 1 ∧ second.log = first.log ∧ second.duplicatedPackets = 1 := by
  decide

/-- A packet with a KNOB frame queues the knob each time it is processed. -/
theorem duplicate_knob_twice :
    ¬ ∀ (c : ServerConn Unit) (packet : RegularQuicPacket Unit),
      (c.receiveTwice packet).2.log = (c.receiveTwice packet).1.log := by
  intro hharmless
  exact absurd (hharmless oneDatagram ⟨8, 0, [.knob ⟨1, 2, []⟩]⟩) (by decide)

end ServerConn

end MasqueQuic
