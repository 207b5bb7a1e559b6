/-
The transaction handler of the MASQUE server (`samples/masque/MasqueServer.cpp`,
`DatagramTransactionHandler`).

A session holds the shared tun device, the map from stream ids to stream objects
and, in the order they happen, the calls the handler makes to the outside:
headers and bodies sent to the client, writes to the tun device and to the UDP
sockets. `onHeadersComplete`, `onBody` and `onDatagram` are translated branch by
branch. They are `noexcept`, so every exception is a fault. Handlers are those
that `getRequestHandler` makes: the map they share with their session is there.

`Platform` collects what the handler calls and is not part of the program: the
text form of addresses, UDP sockets, `parseContextID`, the addition of
addresses, and how much room an allocation leaves.
-/

import MasqueQuic.Masque.Capsule
import MasqueQuic.Masque.Upstream

namespace MasqueQuic

abbrev Text := List Char

/-! ### Requests -/

inductive HTTPMethod where
  | GET | POST | OPTIONS | DELETE | HEAD | CONNECT | CONNECT_UDP | CONNECT_IP | PUT | TRACE
  | PATCH | SUB | PUB | UNSUB
  deriving DecidableEq, Repr

/-- Header fields, in order. -/
abbrev HTTPHeaders := List (Text × Text)

namespace HTTPHeaders

/-- Field names are compared without regard to case. -/
def values (headers : HTTPHeaders) (name : Text) : List Text :=
  (headers.filter fun field => field.1.map Char.toLower == name.map Char.toLower).map Prod.snd

def contains (headers : HTTPHeaders) (name : Text) : Bool := !(headers.values name).isEmpty

/-- The value of a field that occurs exactly once, else the empty text. -/
def getSingleOrEmpty (headers : HTTPHeaders) (name : Text) : Text :=
  match headers.values name with
  | [value] => value
  | _ => []

end HTTPHeaders

/-- What the handler reads of `HTTPMessage`. -/
structure HTTPMessage where
  method : Option HTTPMethod
  upgradeProtocol : Option Text
  headers : HTTPHeaders
  path : Text

def CONNECT_UDP_PATH : Text := "/.well-known/masque/udp/".toList

def CONNECT_IP_PATH : Text := "/.well-known/masque/ip".toList

/-- The checks of a request up to the choice of the stream: the text of the 400
answer, or the type of the stream. -/
def checkRequest (httpMessage : HTTPMessage) : Except Text StreamType := do
  let some method := httpMessage.method
    | throw "needs a method".toList
  if method ≠ .CONNECT_UDP ∧ method ≠ .CONNECT_IP then
    throw "needs connect-udp or connect-ip".toList
  let some protocol := httpMessage.upgradeProtocol
    | throw "protocol not included".toList
  let streamType : StreamType ←
    match method with
    | .CONNECT_UDP => pure .UDP
    | .CONNECT_IP => pure .IP
    | _ => throw ("invalid protocol: ".toList ++ protocol)
  if !httpMessage.headers.contains "host".toList then
    throw "must include :authority".toList
  let path := if streamType = .UDP then CONNECT_UDP_PATH else CONNECT_IP_PATH
  if !path.isPrefixOf httpMessage.path then
    throw "invalid path".toList
  if httpMessage.headers.getSingleOrEmpty "capsule-protocol".toList ≠ "?1".toList then
    throw "must start the capsule protocol".toList
  return streamType

/-- The address and the port at the end of a CONNECT-UDP path, which has six parts. -/
def pathArguments (path : Text) : Option (Text × Text) :=
  match path.splitOn '/' with
  | [_, _, _, _, targetIP, targetPort] => some (targetIP, targetPort)
  | _ => none

/-- `isspace`. -/
def isSpace (c : Char) : Bool := c = ' ' || (9 ≤ c.toNat && c.toNat ≤ 13)

def digitsValue (digits : Text) : Nat := digits.foldl (fun n c => 10 * n + (c.toNat - 48)) 0

/-- `std::stoi`: white space, a sign, digits; what follows them is ignored. -/
def stoi (text : Text) : Except Fault Int :=
  let text := text.dropWhile isSpace
  let (negative, text) :=
    match text with
    | '-' :: rest => (true, rest)
    | '+' :: rest => (false, rest)
    | rest => (false, rest)
  let digits := text.takeWhile Char.isDigit
  if digits.isEmpty then .error .invalidArgument
  else
    let value : Int := if negative then -digitsValue digits else digitsValue digits
    if -2 ^ 31 ≤ value ∧ value < 2 ^ 31 then .ok value else .error .outOfRange

/-- The port of a socket address takes the low 16 bits. -/
def toPort (value : Int) : Nat := (value % 2 ^ 16).toNat

/-! ### Sessions -/

structure Platform where
  /-- `IPAddressV4 + n` -/
  plus : IPAddressV4 → Nat → IPAddressV4
  /-- `IPAddress(text)`; `none` where it throws -/
  parseIP : Text → Option IPAddress
  /-- `socket->connect(address)` does not throw -/
  connects : SocketAddress → Bool
  /-- value and width of a context id -/
  parseContextID : Bytes → Option (Nat × Nat)
  /-- the room left by an allocation -/
  alloc : Nat → Nat

/-- Four decimal octets, separated by dots. -/
def parseDotted (text : Text) : Option IPAddress :=
  match (text.splitOn '.').map stoi with
  | [.ok a, .ok b, .ok c, .ok d] =>
      some (.v4 (.ofOctets (.ofNat a.toNat) (.ofNat b.toNat) (.ofNat c.toNat) (.ofNat d.toNat)))
  | _ => none

/-- A platform on which sockets connect and only dotted addresses parse. -/
def samplePlatform : Platform where
  plus := plusHBO
  parseIP := parseDotted
  connects := fun _ => true
  parseContextID := fun bytes => decodeQuicInteger bytes sizeofUint64
  alloc := id

/-- A call to the outside. -/
inductive Effect where
  | sendHeaders (statusCode : Nat) (statusMessage : Text) (headers : HTTPHeaders)
  | sendBody (body : IOBuf)
  | tunWrite (packet : Bytes)
  | socketWrite (target : SocketAddress) (payload : Bytes)
  deriving DecidableEq

/-- The callbacks in the map of the tun device are named by their streams. -/
structure Session where
  tunDevice : SharedTun Nat
  streamSocketMap : List (Nat × QuicStream)
  effects : List Effect
  deriving DecidableEq

namespace Session

def emit (s : Session) (effect : Effect) : Session := { s with effects := s.effects ++ [effect] }

/-- `ConcurrentHashMap::insert`: a key that is there keeps its value. -/
def insertStream (s : Session) (streamID : Nat) (stream : QuicStream) : Session :=
  match s.streamSocketMap.lookup streamID with
  | some _ => s
  | none => { s with streamSocketMap := s.streamSocketMap ++ [(streamID, stream)] }

def getStream (s : Session) (streamID : Nat) : Except Fault QuicStream :=
  match s.streamSocketMap.lookup streamID with
  | some stream => .ok stream
  | none => .error .mapAt

def replyWithError (s : Session) (errorMessage : Text) : Session :=
  s.emit (.sendHeaders 400 errorMessage [])

def replyWithSuccess (s : Session) : Session :=
  s.emit (.sendHeaders 200 "Ok".toList [("capsule-protocol".toList, "?1".toList)])

end Session

/-! ### The handler -/

section Handler

variable (platform : Platform)

/-- Assign `assignedIP` under each of the request ids. `createNetwork` of an
address without a prefix length gives /32. -/
def assignCapsule (assignedIP : IPAddressV4) (requestIDs : List Nat) : Capsule :=
  .addressAssign (requestIDs.map fun requestID => ⟨requestID, .v4 assignedIP, 32⟩)

/-- The range that covers all of IPv4. -/
def routeCapsule : Capsule :=
  .routeAdvertisement [⟨.v4 (.ofOctets 0 0 0 0), .v4 (.ofOctets 255 255 255 255)⟩]

def sendCapsule (capsule : Capsule) (s : Session) : Except Fault Session := do
  let buf ← capsule.toBuffer platform.alloc
  return s.emit (.sendBody buf)

/-- The stream of a CONNECT-UDP request: it needs a connected socket. -/
def createUDPStream (targetIP targetPort : Text) (storage : Nat) : Except Fault QuicStream := do
  let port ← stoi targetPort
  let some ip := platform.parseIP targetIP
    | throw .addressFormat
  let target : SocketAddress := ⟨ip, toPort port⟩
  if !platform.connects target then
    throw .connectFailed
  return .construct storage (.UDPProperties target)

/-- `onHeadersComplete`; `storage` is the word that the allocation of the stream
object finds in the place of its `type`. -/
def onHeadersComplete (streamID : Nat) (httpMessage : HTTPMessage) (storage : Nat) (s : Session) :
    Except Fault Session :=
  match checkRequest httpMessage with
  | .error errorMessage => return s.replyWithError errorMessage
  | .ok .UDP =>
      match pathArguments httpMessage.path with
      | some (targetIP, targetPort) => do
          let stream ← createUDPStream platform targetIP targetPort storage
          return (s.insertStream streamID stream).replyWithSuccess
      | none => return s.replyWithError "invalid path arguments".toList
  | .ok .IP => do
      let (assignedIP, tunDevice) ← s.tunDevice.registerTransaction platform.plus streamID
      let s := { s with tunDevice := tunDevice }
      let s := s.insertStream streamID (.construct storage (.IPProperties assignedIP))
      sendCapsule platform (assignCapsule assignedIP [0]) s.replyWithSuccess

/-- The `switch` of `onBody`. -/
def actOn (stream : QuicStream) (capsule : Capsule) (s : Session) : Except Fault Session :=
  match capsule with
  | .datagram data => return s.emit (.tunWrite data.head.data)
  | .addressRequest addresses => do
      let assignedIP ← stream.getIPProperties
      let s ← sendCapsule platform (assignCapsule assignedIP (addresses.map (·.requestID))) s
      sendCapsule platform routeCapsule s
  | _ => return s

/-- Whether `onBody` hands the bodies of a stream to the parser. -/
def QuicStream.parsesBodies (stream : QuicStream) : Bool := stream.type ≠ StreamType.UDP.code

theorem QuicStream.parsesBodies_eq_false {stream : QuicStream} :
    stream.parsesBodies = false ↔ stream.type = StreamType.UDP.code := by
  unfold parsesBodies
  rw [decide_eq_false_iff_not, not_not]

theorem QuicStream.parsesBodies_eq_true {stream : QuicStream} :
    stream.parsesBodies = true ↔ stream.type ≠ StreamType.UDP.code := by
  unfold parsesBodies
  rw [decide_eq_true_eq]

/-- `onBody`, with the capsule that the `switch` acts on. -/
def onBody (streamID : Nat) (body : IOBuf) (s : Session) :
    Except Fault (Option Capsule × Session) := do
  let stream ← s.getStream streamID
  if !stream.parsesBodies then
    return (none, s)
  match ← parseCapsule body with
  | none => return (none, s)
  | some (.unknown _) => return (none, s)
  | some capsule => do
      let s ← actOn platform stream capsule s
      return (some capsule, s)

/-- Where the payload of a datagram goes: to the socket or to the tun device. -/
def Properties.write (payload : Bytes) : Properties → Effect
  | UDPProperties target => .socketWrite target payload
  | IPProperties _ => .tunWrite payload

def onDatagram (streamID : Nat) (datagram : IOBuf) (s : Session) : Except Fault Session := do
  let stream ← s.getStream streamID
  let datagram := datagram.coalesce
  match platform.parseContextID datagram.head.data with
  | some (0, width) => do
      let datagram ← datagram.trimStart width
      return s.emit (stream.properties.write datagram.head.data)
  | _ => return s

end Handler

end MasqueQuic
