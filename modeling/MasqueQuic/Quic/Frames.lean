/-
Control frames (`QuicSimpleFrame`), read or written, and the connection ids in them.
-/

import MasqueQuic.Folly.IOBuf

namespace MasqueQuic

/-- The bytes of a connection id. -/
abbrev ConnectionId := Bytes

structure ConnectionIdData where
  connId : ConnectionId
  sequenceNumber : Nat
  token : Option Bytes
  deriving DecidableEq

structure KnobFrame where
  knobSpace : Nat
  id : Nat
  blob : Bytes
  deriving DecidableEq

structure NewConnectionIdFrame where
  sequenceNumber : Nat
  retirePriorTo : Nat
  connectionId : ConnectionId
  token : Bytes
  deriving DecidableEq

inductive QuicSimpleFrame where
  | stopSending (streamId errorCode : Nat)
  | pathChallenge (pathData : Nat)
  | pathResponse (pathData : Nat)
  | newConnectionId (frame : NewConnectionIdFrame)
  | maxStreams (maxStreams : Nat) (isForBidirectionalStream : Bool)
  | retireConnectionId (sequenceNumber : Nat)
  | handshakeDone
  | knob (frame : KnobFrame)
  | ackFrequency (sequenceNumber packetTolerance updateMaxAckDelay reorderThreshold : Nat)
  | newToken (token : Bytes)
  deriving DecidableEq

end MasqueQuic
