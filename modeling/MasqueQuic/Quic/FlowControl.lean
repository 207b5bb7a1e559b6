/-
The receive side of a connection: flow control, the receive state machine of the
streams, and the calls of the application that read.

A function that works on one stream gets the stream and what the connection keeps
beside it (`RecvConn`), and returns both. An exception carries them too, as they are at
the throw, since some fields are written before a check that can still fail. The clock
and the smoothed round trip time come with the call (`Now`). Sums are computed in 64
bits as in the source; the stream manager's sets of readable, peekable and closed
streams do not influence what is modelled here and are left out.
-/

import MasqueQuic.Quic.StreamReceive

namespace MasqueQuic

abbrev StreamId := Nat

inductive QuicNodeType where
  | client
  | server
  deriving DecidableEq

def isUnidirectionalStream (id : StreamId) : Bool := id.testBit 1

def isLocalStream (nodeType : QuicNodeType) (id : StreamId) : Bool :=
  match nodeType with
  | .client => !id.testBit 0
  | .server => id.testBit 0

def isSendingStream (nodeType : QuicNodeType) (id : StreamId) : Bool :=
  isUnidirectionalStream id && isLocalStream nodeType id

def isReceivingStream (nodeType : QuicNodeType) (id : StreamId) : Bool :=
  isUnidirectionalStream id && !isLocalStream nodeType id

/-- Unsigned arithmetic in 64 bits. -/
def u64 (n : Nat) : Nat := n % 2 ^ 64

/-- Subtraction of unsigned 64-bit numbers. -/
def sub64 (a b : Nat) : Nat := (a + 2 ^ 64 - b) % 2 ^ 64

theorem sub64_lt (a b : Nat) : sub64 a b < 2 ^ 64 := by
  unfold sub64
  exact Nat.mod_lt _ (Nat.pow_pos (by decide))

theorem sub64_of_le {a b : Nat} (h : b ≤ a) (ha : a < 2 ^ 64) : sub64 a b = a - b := by
  unfold sub64
  omega

theorem sub64_of_lt {a b : Nat} (h : a < b) : sub64 a b = a + 2 ^ 64 - b := by
  unfold sub64
  omega

/-- `TransportSettings`, as far as receiving depends on it. -/
structure ReceiveSettings where
  advertisedInitialConnectionWindowSize : UInt64
  advertisedInitialBidiLocalStreamWindowSize : UInt64
  advertisedInitialBidiRemoteStreamWindowSize : UInt64
  advertisedInitialUniStreamWindowSize : UInt64
  flowControlRttFrequency : Nat
  flowControlWindowFrequency : Nat
  autotuneReceiveConnFlowControl : Bool

/-- The time of a call in nanoseconds, and the smoothed round trip time in
microseconds. -/
structure Now where
  now : Nat
  srtt : Nat

structure ConnectionFlowControlState where
  windowSize : Nat
  advertisedMaxOffset : Nat
  sumCurReadOffset : Nat
  sumMaxObservedOffset : Nat
  timeOfLastFlowControlUpdate : Option Nat
  deriving DecidableEq

/-- What the connection keeps for receiving, beside the streams. -/
structure RecvConn where
  nodeType : QuicNodeType
  transportSettings : ReceiveSettings
  flowControlState : ConnectionFlowControlState
  connWindowUpdate : Bool
  windowUpdates : List StreamId

inductive StreamRecvState where
  | open
  | closed
  | invalid
  deriving DecidableEq

structure StreamFlowControlState where
  windowSize : Nat
  advertisedMaxOffset : Nat
  timeOfLastFlowControlUpdate : Option Nat
  deriving DecidableEq

structure QuicStreamState extends QuicStreamLike where
  id : StreamId
  flowControlState : StreamFlowControlState
  streamReadError : Option Nat
  recvState : StreamRecvState
  deriving DecidableEq

structure ReadStreamFrame where
  streamId : StreamId
  offset : Nat
  data : Buf
  fin : Bool

structure RstStreamFrame where
  streamId : StreamId
  errorCode : Nat
  offset : Nat
  deriving DecidableEq

namespace RecvConn

/-- `updateFlowControlStateWithSettings`. -/
def new (nodeType : QuicNodeType) (settings : ReceiveSettings) : RecvConn where
  nodeType
  transportSettings := settings
  flowControlState :=
    { windowSize := settings.advertisedInitialConnectionWindowSize.toNat
      advertisedMaxOffset := settings.advertisedInitialConnectionWindowSize.toNat
      sumCurReadOffset := 0
      sumMaxObservedOffset := 0
      timeOfLastFlowControlUpdate := none }
  connWindowUpdate := false
  windowUpdates := []

/-- The window that a new stream starts with. -/
def initialWindow (c : RecvConn) (id : StreamId) : UInt64 :=
  if isUnidirectionalStream id then c.transportSettings.advertisedInitialUniStreamWindowSize
  else if isLocalStream c.nodeType id then
    c.transportSettings.advertisedInitialBidiLocalStreamWindowSize
  else c.transportSettings.advertisedInitialBidiRemoteStreamWindowSize

end RecvConn

/-- `QuicStreamState(id, conn)`. -/
def QuicStreamState.new (c : RecvConn) (id : StreamId) : QuicStreamState where
  toQuicStreamLike := .new
  id
  flowControlState :=
    { windowSize := (c.initialWindow id).toNat
      advertisedMaxOffset := (c.initialWindow id).toNat
      timeOfLastFlowControlUpdate := none }
  streamReadError := none
  recvState := if isSendingStream c.nodeType id then .invalid else .open

/-! ### Window updates -/

def calculateNewWindowUpdate (settings : ReceiveSettings)
    (curReadOffset curAdvertisedOffset windowSize : Nat) (lastSendTime : Option Nat) (t : Now) :
    Option Nat :=
  let nextAdvertisedOffset := u64 (curReadOffset + windowSize)
  if nextAdvertisedOffset = curAdvertisedOffset then none
  else
    let enoughTimeElapsed := lastSendTime.any fun last =>
      t.now > last && t.now - last > settings.flowControlRttFrequency * (1000 * t.srtt)
    if enoughTimeElapsed ∧ ¬ settings.autotuneReceiveConnFlowControl then
      some nextAdvertisedOffset
    else if u64 (u64 (curAdvertisedOffset + 2 ^ 64 - curReadOffset) *
        settings.flowControlWindowFrequency) < windowSize then
      some nextAdvertisedOffset
    else none

def incrementWithOverFlowCheck (num diff : Nat) : Except QuicException Nat :=
  if num > 2 ^ 64 - 1 - diff then .error (.internal "flow control state overflow")
  else .ok (num + diff)

def maybeIncreaseConnectionFlowControlWindow (f : ConnectionFlowControlState) (t : Now) :
    Except QuicException ConnectionFlowControlState :=
  match f.timeOfLastFlowControlUpdate with
  | none => .ok f
  | some last =>
      if t.srtt = 0 then .ok f
      else if t.now ≤ last then .error (.check .flowControlTime)
      else if (t.now - last) / 1000 < 2 * t.srtt then
        .ok { f with windowSize := u64 (f.windowSize * 2) }
      else .ok f

def maybeSendConnWindowUpdate (c : RecvConn) (t : Now) : Except QuicException RecvConn :=
  if c.connWindowUpdate then .ok c
  else
    let f := c.flowControlState
    match calculateNewWindowUpdate c.transportSettings f.sumCurReadOffset f.advertisedMaxOffset
        f.windowSize f.timeOfLastFlowControlUpdate t with
    | none => .ok c
    | some _ =>
        if c.transportSettings.autotuneReceiveConnFlowControl then
          match maybeIncreaseConnectionFlowControlWindow f t with
          | .error e => .error e
          | .ok f => .ok { c with connWindowUpdate := true, flowControlState := f }
        else .ok { c with connWindowUpdate := true }

def maybeSendStreamWindowUpdate (s : QuicStreamState) (c : RecvConn) (t : Now) : RecvConn :=
  if s.recvState ≠ .open ∨ c.windowUpdates.contains s.id then c
  else
    match calculateNewWindowUpdate c.transportSettings s.currentReadOffset
        s.flowControlState.advertisedMaxOffset s.flowControlState.windowSize
        s.flowControlState.timeOfLastFlowControlUpdate t with
    | none => c
    | some _ => { c with windowUpdates := s.id :: c.windowUpdates }

/-! ### Accounting -/

def updateFlowControlOnStreamData (id : StreamId) (advertisedMaxOffset : Nat)
    (previousMaxOffsetObserved bufferEndOffset : Nat) (c : RecvConn) :
    Except QuicException RecvConn :=
  if advertisedMaxOffset < bufferEndOffset then
    .error (.transport ("Stream flow control violation on stream " ++ toString id)
      .flowControlError)
  else
    let curMaxOffsetObserved := max previousMaxOffsetObserved bufferEndOffset
    let diff := curMaxOffsetObserved - previousMaxOffsetObserved
    let f := c.flowControlState
    match incrementWithOverFlowCheck f.sumMaxObservedOffset diff with
    | .error e => .error e
    | .ok connMaxObservedOffset =>
        if connMaxObservedOffset > f.advertisedMaxOffset then
          .error (.transport "Connection flow control violation" .flowControlError)
        else
          match incrementWithOverFlowCheck f.sumMaxObservedOffset diff with
          | .error e => .error e
          | .ok sumMaxObservedOffset =>
              .ok { c with flowControlState := { f with sumMaxObservedOffset } }

/-- An exception leaves what was written before it. -/
def updateFlowControlOnRead (s : QuicStreamState) (lastReadOffset : Nat) (c : RecvConn) (t : Now) :
    Except (QuicException × RecvConn) RecvConn :=
  match incrementWithOverFlowCheck c.flowControlState.sumCurReadOffset
      (s.currentReadOffset - lastReadOffset) with
  | .error e => .error (e, c)
  | .ok sumCurReadOffset =>
      let c := { c with flowControlState := { c.flowControlState with sumCurReadOffset } }
      match maybeSendConnWindowUpdate c t with
      | .error e => .error (e, c)
      | .ok c => .ok (maybeSendStreamWindowUpdate s c t)

/-- Window updates use what the stream or the connection has read so far. -/
def generateMaxDataFrame (c : RecvConn) : Nat :=
  max (u64 (c.flowControlState.sumCurReadOffset + c.flowControlState.windowSize))
    c.flowControlState.advertisedMaxOffset

def generateMaxStreamDataFrame (s : QuicStreamState) : Nat :=
  max (u64 (s.currentReadOffset + s.flowControlState.windowSize))
    s.flowControlState.advertisedMaxOffset

def onConnWindowUpdateSent (c : RecvConn) (maximumDataSent sentTime : Nat) : RecvConn :=
  { c with
    flowControlState := { c.flowControlState with
      advertisedMaxOffset := maximumDataSent
      timeOfLastFlowControlUpdate := some sentTime }
    connWindowUpdate := false }

def onStreamWindowUpdateSent (s : QuicStreamState) (c : RecvConn) (maximumDataSent sentTime : Nat) :
    QuicStreamState × RecvConn :=
  ({ s with flowControlState := { s.flowControlState with
      advertisedMaxOffset := maximumDataSent
      timeOfLastFlowControlUpdate := some sentTime } },
    { c with windowUpdates := c.windowUpdates.erase s.id })

/-! ### Streams -/

/-- The result of a function that works on a stream, or the exception it throws. -/
abbrev OnStream (α : Type) :=
  Except (QuicException × QuicStreamState × RecvConn) (α × QuicStreamState × RecvConn)

namespace QuicStreamState

def appendDataToReadBuffer (s : QuicStreamState) (c : RecvConn) (buffer : StreamBuffer) :
    OnStream Unit :=
  match s.toQuicStreamLike.appendDataToReadBufferCommon
      (updateFlowControlOnStreamData s.id s.flowControlState.advertisedMaxOffset) c buffer with
  | .error (e, like) => .error (e, { s with toQuicStreamLike := like }, c)
  | .ok (like, c) => .ok ((), { s with toQuicStreamLike := like }, c)

/-- The part that `readDataFromQuicStream` and `consumeDataFromQuicStream` share; the
data and whether the end was reached. -/
def readOrConsume (s : QuicStreamState) (c : RecvConn) (amount : Nat) (sinkData : Bool) (t : Now) :
    OnStream (Buf × Bool) :=
  if s.finalReadOffset.any (s.currentReadOffset ≥ ·) then
    if s.finalReadOffset = some s.currentReadOffset then
      .ok ((none, true), { s with currentReadOffset := s.currentReadOffset + 1 }, c)
    else .ok ((none, true), s, c)
  else
    match s.toQuicStreamLike.readDataInOrderFromReadBuffer amount sinkData with
    | .error e => .error (e, s, c)
    | .ok (data, _, like) =>
        let s' := { s with toQuicStreamLike := like }
        match updateFlowControlOnRead s' s.currentReadOffset c t with
        | .error (e, c) => .error (e, s', c)
        | .ok c =>
            if s'.finalReadOffset = some s'.currentReadOffset then
              .ok ((data, true), { s' with currentReadOffset := s'.currentReadOffset + 1 }, c)
            else .ok ((data, false), s', c)

def readDataFromQuicStream (s : QuicStreamState) (c : RecvConn) (amount : Nat) (t : Now) :
    OnStream (Buf × Bool) :=
  s.readOrConsume c amount false t

def consumeDataFromQuicStream (s : QuicStreamState) (c : RecvConn) (amount : Nat) (t : Now) :
    OnStream Unit :=
  match s.readOrConsume c amount true t with
  | .error e => .error e
  | .ok (_, s, c) => .ok ((), s, c)

def onResetQuicStream (s : QuicStreamState) (c : RecvConn) (frame : RstStreamFrame) (t : Now) :
    OnStream Unit :=
  match s.finalReadOffset.filter (· ≠ frame.offset) with
  | some final =>
      .error (.transport ("Read offset mismatch, " ++ toString final ++ " != " ++
        toString frame.offset) .finalSizeError, s, c)
  | none =>
      if s.maxOffsetObserved > frame.offset then
        .error (.transport "Reset in middle of stream" .finalSizeError, s, c)
      else
        match updateFlowControlOnStreamData s.id s.flowControlState.advertisedMaxOffset
            s.maxOffsetObserved frame.offset c with
        | .error e => .error (e, s, c)
        | .ok c =>
            let s := { s with
              readBuffer := []
              finalReadOffset := some frame.offset
              streamReadError := some frame.errorCode }
            if s.currentReadOffset > frame.offset then .ok ((), s, c)
            else
              let s' := { s with
                currentReadOffset := frame.offset
                maxOffsetObserved := frame.offset }
              match updateFlowControlOnRead s' s.currentReadOffset c t with
              | .error (e, c) => .error (e, s', c)
              | .ok c => .ok ((), s', c)

def isAllDataReceived (s : QuicStreamState) : Bool :=
  match s.finalReadOffset with
  | none => false
  | some final =>
      if final ≤ s.currentReadOffset then true
      else
        match s.readBuffer with
        | [b] => s.currentReadOffset == b.offset && b.endOffset == final
        | _ => false

/-- `streamStateToString`. -/
def invalidTransition (s : QuicStreamState) : QuicException :=
  .transport ("Invalid transition from state=" ++
    match s.recvState with
    | .open => "Open"
    | .closed => "Closed"
    | .invalid => "Invalid") .streamStateError

def receiveReadStreamFrameSMHandler (s : QuicStreamState) (c : RecvConn)
    (frame : ReadStreamFrame) : OnStream Unit :=
  match s.recvState with
  | .open =>
      match s.appendDataToReadBuffer c (.new frame.data frame.offset frame.fin) with
      | .error e => .error e
      | .ok (_, s, c) =>
          if s.isAllDataReceived then .ok ((), { s with recvState := .closed }, c)
          else .ok ((), s, c)
  | .closed =>
      if isSendingStream c.nodeType s.id then .error (.check .closedSending, s, c)
      else .ok ((), s, c)
  | .invalid => .error (s.invalidTransition, s, c)

def receiveRstStreamSMHandler (s : QuicStreamState) (c : RecvConn) (rst : RstStreamFrame)
    (t : Now) : OnStream Unit :=
  match s.recvState with
  | .closed => s.onResetQuicStream c rst t
  | .open => { s with recvState := .closed }.onResetQuicStream c rst t
  | .invalid => .error (s.invalidTransition, s, c)

end QuicStreamState

/-! ### The connection -/

/-- The streams that exist, and those that existed: a removed stream is never opened
again. -/
structure Receiver where
  conn : RecvConn
  streams : List QuicStreamState
  removed : List QuicStreamState

inductive ReceiverEvent where
  | openStream (id : StreamId)
  | removeStream (id : StreamId)
  | streamFrame (frame : ReadStreamFrame)
  | rstStream (frame : RstStreamFrame) (t : Now)
  | read (id : StreamId) (amount : Nat) (t : Now)
  | consume (id : StreamId) (amount : Nat) (t : Now)
  | sendMaxData (sentTime : Nat)
  | sendMaxStreamData (id : StreamId) (sentTime : Nat)

namespace Receiver

def new (nodeType : QuicNodeType) (settings : ReceiveSettings) : Receiver :=
  ⟨.new nodeType settings, [], []⟩

def getStream (streams : List QuicStreamState) (id : StreamId) : Option QuicStreamState :=
  streams.find? (·.id == id)

/-- Put a stream back in the place of the one with its id. -/
def setStream (s : QuicStreamState) : List QuicStreamState → List QuicStreamState
  | [] => []
  | a :: rest => if a.id = s.id then s :: rest else a :: setStream s rest

/-- Call a function for a stream. Frames and calls for a stream that does not exist are
ignored. -/
def onStream {α : Type} (r : Receiver) (id : StreamId)
    (f : QuicStreamState → RecvConn → OnStream α) :
    Except (QuicException × Receiver) (Option α × Receiver) :=
  match getStream r.streams id with
  | none => .ok (none, r)
  | some s =>
      match f s r.conn with
      | .error (e, s, c) => .error (e, { r with conn := c, streams := setStream s r.streams })
      | .ok (a, s, c) => .ok (some a, { r with conn := c, streams := setStream s r.streams })

def step (r : Receiver) : ReceiverEvent → Except (QuicException × Receiver) Receiver
  | .openStream id =>
      if (r.streams ++ r.removed).any (·.id == id) then .ok r
      else .ok { r with streams := r.streams ++ [.new r.conn id] }
  | .removeStream id =>
      .ok { r with
        streams := r.streams.filter (·.id != id)
        removed := r.removed ++ r.streams.filter (·.id == id) }
  | .streamFrame frame =>
      (·.2) <$> r.onStream frame.streamId fun s c => s.receiveReadStreamFrameSMHandler c frame
  | .rstStream frame t =>
      (·.2) <$> r.onStream frame.streamId fun s c => s.receiveRstStreamSMHandler c frame t
  | .read id amount t =>
      (·.2) <$> r.onStream id fun s c => s.readDataFromQuicStream c amount t
  | .consume id amount t =>
      (·.2) <$> r.onStream id fun s c => s.consumeDataFromQuicStream c amount t
  | .sendMaxData sentTime =>
      .ok { r with conn := onConnWindowUpdateSent r.conn (generateMaxDataFrame r.conn) sentTime }
  | .sendMaxStreamData id sentTime =>
      (·.2) <$> r.onStream id fun s c =>
        .ok ((), onStreamWindowUpdateSent s c (generateMaxStreamDataFrame s) sentTime)

end Receiver

end MasqueQuic
