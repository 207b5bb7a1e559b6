/-
The ways a function of the QUIC library can leave its caller.

`QuicTransportException` carries the error code that the peer is told and
`QuicInternalException` a local one; the connection is closed either way. A `CHECK`
that fails stops the process, and `QuicCheck` says which one it was.
-/

namespace MasqueQuic

inductive TransportErrorCode where
  | noError
  | internalError
  | serverBusy
  | flowControlError
  | streamLimitError
  | streamStateError
  | finalSizeError
  | frameEncodingError
  | transportParameterError
  | protocolViolation
  | invalidMigration
  | cryptoError
  | cryptoErrorMax
  | invalidToken
  deriving DecidableEq, Repr

inductive QuicCheck where
  | readOffset       -- `CHECK_EQ(curr->offset, stream.currentReadOffset)`
  | flowControlTime  -- `CHECK(updateTime > *timeOfLastFlowControlUpdate)`
  | closedSending    -- `CHECK(!isSendingStream(nodeType, id))`
  deriving DecidableEq, Repr

inductive QuicException where
  | transport (message : String) (code : TransportErrorCode)
  | internal (message : String)
  | underflow
  | check (which : QuicCheck)
  deriving DecidableEq, Repr

/-- The code that the peer is told. -/
def QuicException.code : QuicException → Option TransportErrorCode
  | .transport _ code => some code
  | _ => none

end MasqueQuic
