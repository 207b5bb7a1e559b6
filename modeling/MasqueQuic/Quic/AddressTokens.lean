/-
Address validation tokens: `RetryToken` and `NewToken` (`quic/codec/Types.cpp`), `TokenGenerator`
(`quic/server/handshake/TokenGenerator.cpp`), and what `QuicServerWorker` does with the token of an
Initial packet.

A token hides the time of its issue. What it is bound to is in the associated data: the kind of the
token, for a Retry token the connection ID in hex, and the text of the address, with nothing between
them. So a Retry token is also bound to a longer ID and a shorter address, where the first digits of
the address can be read as hex (`joined_eq_iff`). `tokens_bound_iff` says what the tokens are bound to,
and of which connections the address counts as verified.
-/

import MasqueQuic.Quic.PacketHeaders

namespace MasqueQuic

/-! ### Texts -/

/-- `folly::hexlify`. -/
def hexlify (bytes : Bytes) : List Char :=
  bytes.flatMap fun b => [Nat.digitChar (b.toNat / 16), Nat.digitChar (b.toNat % 16)]

def BoundedConnectionId.hex (id : BoundedConnectionId) : List Char := hexlify id.bytes

/-- `folly::join` with one character between the parts. -/
def joinWith (c : Char) : List (List Char) → List Char
  | [] => []
  | [x] => x
  | x :: y :: rest => x ++ c :: joinWith c (y :: rest)

def IPAddressV4.str (ip : IPAddressV4) : List Char :=
  joinWith '.' (ip.addr.val.map fun b => Nat.toDigits 10 b.toNat)

/-- The text of an address; `v6` is that of `folly::IPAddressV6`. -/
def IPAddress.str (v6 : IPAddressV6 → List Char) : IPAddress → List Char
  | .empty => []
  | .v4 ip => ip.str
  | .v6 ip => v6 ip

/-- What is used of the text of IPv6 addresses: it is a canonical form, in groups. -/
structure CanonicalText (v6 : IPAddressV6 → List Char) : Prop where
  injective : Function.Injective v6
  colon : ∀ ip, ':' ∈ v6 ip

/-! ### Tokens -/

inductive TokenType where
  | retryToken
  | newToken

def TokenType.toText : TokenType → List Char
  | .retryToken => "RetryToken".toList
  | .newToken => "NewToken".toList

structure RetryToken where
  originalDstConnId : BoundedConnectionId
  clientIp : IPAddress
  clientPort : Nat
  timestampInMs : UInt64

structure NewToken where
  clientIp : IPAddress
  timestampInMs : UInt64

def getPlaintextToken (timestampInMs : UInt64) : Bytes := beBytes 8 timestampInMs.toNat

/-- `parsePlaintextRetryOrNewToken`. -/
def parsePlaintextRetryOrNewToken (plaintext : Bytes) : Option UInt64 :=
  if 8 ≤ plaintext.length then some (UInt64.ofNat (beNat (plaintext.take 8))) else none

section AssocData

variable (v6 : IPAddressV6 → List Char)

def RetryToken.genAeadAssocData (token : RetryToken) : List Char :=
  TokenType.retryToken.toText ++ token.originalDstConnId.hex ++ token.clientIp.str v6

def NewToken.genAeadAssocData (token : NewToken) : List Char :=
  TokenType.newToken.toText ++ token.clientIp.str v6

end AssocData

def kRetryTokenSecretLength : Nat := 32

abbrev TokenSecret := ByteArrayN kRetryTokenSecretLength

/-- `fizz::server::Aead128GCMTokenCipher`: what is encrypted decrypts with the same secret and the
same associated data, and with no others. -/
structure TokenCipher where
  encrypt : TokenSecret → Bytes → List Char → Bytes
  decrypt : TokenSecret → Bytes → List Char → Option Bytes
  decrypt_encrypt : ∀ secret secret' plaintext assocData assocData',
    decrypt secret' (encrypt secret plaintext assocData) assocData' =
      if secret = secret' ∧ assocData = assocData' then some plaintext else none

/-- `TokenGenerator::decryptToken`: 0 for a token that does not decrypt. -/
def TokenCipher.decryptToken (cipher : TokenCipher) (secret : TokenSecret)
    (encryptedToken : Bytes) (aeadAssocData : List Char) : UInt64 :=
  match cipher.decrypt secret encryptedToken aeadAssocData with
  | none => 0
  | some plaintext => (parsePlaintextRetryOrNewToken plaintext).getD 0

def kMaxRetryTokenValidMs : UInt64 := 1000 * 60 * 5
def kMaxNewTokenValidMs : UInt64 := 1000 * 24 * 60 * 60

/-- A clock that has been set back makes a token come from the future. -/
def checkTokenAge (nowInMs tokenIssuedMs kTokenValidMs : UInt64) : Bool :=
  let tokenAgeMs := if nowInMs > tokenIssuedMs then nowInMs - tokenIssuedMs
    else tokenIssuedMs - nowInMs
  tokenAgeMs ≤ kTokenValidMs

/-! ### The worker -/

/-- The settings of a worker that decide about Initial packets without a connection. -/
structure TokenServer where
  cipher : TokenCipher
  v6 : IPAddressV6 → List Char
  retryTokenSecret : Option TokenSecret

namespace TokenServer

variable (server : TokenServer)

/-- The token that `sendRetryPacket` puts in its packet. -/
def retryToken (secret : TokenSecret) (token : RetryToken) : Bytes :=
  server.cipher.encrypt secret (getPlaintextToken token.timestampInMs)
    (token.genAeadAssocData server.v6)

/-- The token of a NEW_TOKEN frame. -/
def newToken (secret : TokenSecret) (token : NewToken) : Bytes :=
  server.cipher.encrypt secret (getPlaintextToken token.timestampInMs)
    (token.genAeadAssocData server.v6)

def validRetryToken (secret : TokenSecret) (encryptedToken : Bytes)
    (dstConnId : BoundedConnectionId) (clientIp : IPAddress) (nowInMs : UInt64) : Bool :=
  let token : RetryToken := ⟨dstConnId, clientIp, 0, 0⟩
  let decryptedMs := server.cipher.decryptToken secret encryptedToken
    (token.genAeadAssocData server.v6)
  decryptedMs ≠ 0 && checkTokenAge nowInMs decryptedMs kMaxRetryTokenValidMs

def validNewToken (secret : TokenSecret) (encryptedToken : Bytes) (clientIp : IPAddress)
    (nowInMs : UInt64) : Bool :=
  let token : NewToken := ⟨clientIp, 0⟩
  let decryptedMs := server.cipher.decryptToken secret encryptedToken
    (token.genAeadAssocData server.v6)
  decryptedMs ≠ 0 && checkTokenAge nowInMs decryptedMs kMaxNewTokenValidMs

end TokenServer

/-- An Initial packet, when it comes, and what is found out on the way: whether the rate limiter or
the limit on unfinished handshakes asks for a Retry, and whether the factory makes a transport. -/
structure InitialPacket where
  client : SocketAddress
  dstConnId : BoundedConnectionId
  data : Bytes
  nowInMs : UInt64
  limited : Bool
  makesTransport : Bool

def kMinInitialPacketSize : Nat := 1200

def isValidConnIdLength (connId : BoundedConnectionId) : Bool :=
  kMinInitialDestinationConnIdLength ≤ connId.size && connId.size ≤ kMaxConnectionIdSize

def maybeGetEncryptedToken (data : Bytes) : Option Bytes :=
  match data with
  | [] => none
  | initialByte :: rest =>
      match (parseLongHeader initialByte).run rest with
      | .ok (.parsed parsed, _) =>
          if parsed.header.token = [] then none else some parsed.header.token
      | _ => none

inductive InitialOutcome where
  /-- The packet is too small, or its connection ID is too short. -/
  | dropped
  /-- A Retry packet is sent, with a token if there is a secret. -/
  | retry (token : Option RetryToken)
  | noTransport
  | connection (isClientAddrVerified : Bool)

namespace TokenServer

/-- `dispatchPacketData`, from where it has found no connection for an Initial packet. -/
def dispatchInitial (server : TokenServer) (packet : InitialPacket) : InitialOutcome :=
  if packet.data.length < kMinInitialPacketSize ∨
      isValidConnIdLength packet.dstConnId = false then .dropped
  else
    let maybeEncryptedToken := maybeGetEncryptedToken packet.data
    let isValidRetryToken := match server.retryTokenSecret with
      | none => true
      | some secret => match maybeEncryptedToken with
        | none => false
        | some token => server.validRetryToken secret token packet.dstConnId packet.client.ip
            packet.nowInMs
    let isValidNewToken := match server.retryTokenSecret with
      | none => true
      | some secret => match maybeEncryptedToken with
        | none => false
        | some token => server.validNewToken secret token packet.client.ip packet.nowInMs
    if isValidRetryToken = false ∧ packet.limited then
      .retry (server.retryTokenSecret.map fun _ =>
        ⟨packet.dstConnId, packet.client.ip, packet.client.port, packet.nowInMs⟩)
    else if packet.makesTransport then .connection isValidNewToken
    else .noTransport

end TokenServer

/-! ### Runs -/

/-- A token that has been handed out. -/
structure IssuedToken where
  token : Bytes
  type : TokenType
  clientIp : IPAddress
  timestampInMs : UInt64

inductive TokenEvent where
  | initial (packet : InitialPacket)
  /-- A handshake is done, and a NEW_TOKEN frame is sent. -/
  | newTokenFrame (token : NewToken)

namespace TokenServer

variable (server : TokenServer)

/-- The tokens handed out, after one more event. -/
def step (issued : List IssuedToken) : TokenEvent → List IssuedToken
  | .initial packet =>
      match server.retryTokenSecret, server.dispatchInitial packet with
      | some secret, .retry (some token) =>
          issued ++ [⟨server.retryToken secret token, .retryToken, token.clientIp,
            token.timestampInMs⟩]
      | _, _ => issued
  | .newTokenFrame token =>
      match server.retryTokenSecret with
      | some secret =>
          issued ++ [⟨server.newToken secret token, .newToken, token.clientIp,
            token.timestampInMs⟩]
      | none => issued

/-- What decrypts with the secret of the server has been handed out by it. -/
def Unforged (events : List TokenEvent) : Prop :=
  ∀ before packet secret token assocData, before ++ [.initial packet] <+: events →
    server.retryTokenSecret = some secret → maybeGetEncryptedToken packet.data = some token →
    server.cipher.decrypt secret token assocData ≠ none →
    ∃ i ∈ before.foldl server.step [], i.token = token

/-- A connection is made, and its address counts as verified. -/
def Verifies (packet : InitialPacket) : Prop := server.dispatchInitial packet = .connection true

/-- The packet carries a token that has been issued to its address and is not too old. -/
def CarriesToken (issued : List IssuedToken) (packet : InitialPacket) : Prop :=
  ∃ i ∈ issued, maybeGetEncryptedToken packet.data = some i.token ∧
    i.clientIp = packet.client.ip ∧
    packet.nowInMs.toNat - i.timestampInMs.toNat ≤ kMaxNewTokenValidMs.toNat

/-- Every address that counts as verified has been sent a token before, which it has shown. -/
def VerifiesByToken (events : List TokenEvent) : Prop :=
  ∀ before packet, before ++ [.initial packet] <+: events → server.Verifies packet →
    CarriesToken (before.foldl server.step []) packet

end TokenServer

/-! ### Texts determine what they are of -/

theorem digitChar_injective {m n : Nat} (hm : m < 16) (hn : n < 16)
    (h : Nat.digitChar m = Nat.digitChar n) : m = n := by
  have hall : ∀ i j : Fin 16, Nat.digitChar i = Nat.digitChar j → i = j := by decide
  exact congrArg Fin.val (hall ⟨m, hm⟩ ⟨n, hn⟩ h)

theorem hexlify_append (xs ys : Bytes) : hexlify (xs ++ ys) = hexlify xs ++ hexlify ys :=
  List.flatMap_append

theorem byte_of_digits {x y : UInt8} (hhigh : Nat.digitChar (x.toNat / 16) =
    Nat.digitChar (y.toNat / 16)) (hlow : Nat.digitChar (x.toNat % 16) =
    Nat.digitChar (y.toNat % 16)) : x = y := by
  have hx := x.toNat_lt
  have hy := y.toNat_lt
  have hdiv := digitChar_injective (by omega) (by omega) hhigh
  have hmod := digitChar_injective (by omega) (by omega) hlow
  exact UInt8.toNat_inj.mp (by omega)

/-- Where hex texts are followed by other text, the shorter bytes are a prefix of the longer ones. -/
theorem hexlify_append_eq {xs ys : Bytes} {s t : List Char} (hle : xs.length ≤ ys.length)
    (h : hexlify xs ++ s = hexlify ys ++ t) : ∃ d, ys = xs ++ d ∧ s = hexlify d ++ t := by
  induction xs generalizing ys with
  | nil => exact ⟨ys, rfl, h⟩
  | cons x xs ih =>
    cases ys with
    | nil => simp at hle
    | cons y ys =>
      simp only [hexlify, List.flatMap_cons, List.cons_append, List.nil_append,
        List.cons.injEq] at h
      obtain ⟨hhigh, hlow, hrest⟩ := h
      obtain ⟨d, rfl, hs⟩ := ih (Nat.le_of_succ_le_succ hle) hrest
      rw [byte_of_digits hhigh hlow]
      exact ⟨d, rfl, hs⟩

theorem append_cons_injective {c : Char} {x y s t : List Char} (hx : c ∉ x) (hy : c ∉ y)
    (h : x ++ c :: s = y ++ c :: t) : x = y ∧ s = t := by
  induction x generalizing y with
  | nil =>
    cases y with
    | nil =>
      cases h
      exact ⟨rfl, rfl⟩
    | cons b y =>
      cases h
      exact absurd List.mem_cons_self hy
  | cons a x ih =>
    cases y with
    | nil =>
      cases h
      exact absurd List.mem_cons_self hx
    | cons b y =>
      obtain ⟨rfl, hrest⟩ := List.cons.inj h
      obtain ⟨rfl, rfl⟩ := ih (fun hc => hx (.tail _ hc)) (fun hc => hy (.tail _ hc)) hrest
      exact ⟨rfl, rfl⟩

/-- Texts without the separator can be told apart after they have been joined. -/
theorem joinWith_injective {c : Char} {xs ys : List (List Char)} (hxs : ∀ x ∈ xs, c ∉ x)
    (hys : ∀ y ∈ ys, c ∉ y) (hlength : xs.length = ys.length)
    (h : joinWith c xs = joinWith c ys) : xs = ys := by
  induction xs generalizing ys with
  | nil => exact (List.length_eq_zero_iff.mp hlength.symm).symm
  | cons x xs ih =>
    cases ys with
    | nil => cases hlength
    | cons y ys =>
      have hx := hxs x List.mem_cons_self
      have hy := hys y List.mem_cons_self
      have hxs' := fun z hz => hxs z (List.mem_cons_of_mem x hz)
      have hys' := fun z hz => hys z (List.mem_cons_of_mem y hz)
      have hrest : xs.length = ys.length := Nat.succ.inj hlength
      cases xs with
      | nil =>
        cases ys with
        | nil => exact congrArg (fun z => [z]) h
        | cons y' ys => cases hrest
      | cons x' xs =>
        cases ys with
        | nil => cases hrest
        | cons y' ys =>
          obtain ⟨rfl, hjoin⟩ := append_cons_injective hx hy h
          rw [ih hxs' hys' hrest hjoin]

theorem mem_joinWith {c d : Char} {xs : List (List Char)} (h : d ∈ joinWith c xs) :
    d = c ∨ ∃ x ∈ xs, d ∈ x := by
  induction xs with
  | nil => cases h
  | cons x xs ih =>
    cases xs with
    | nil => exact .inr ⟨x, List.mem_cons_self, h⟩
    | cons y xs =>
      rcases List.mem_append.mp h with h | h
      · exact .inr ⟨x, List.mem_cons_self, h⟩
      · rcases List.mem_cons.mp h with h | h
        · exact .inl h
        · rcases ih h with h | ⟨z, hz, hd⟩
          · exact .inl h
          · exact .inr ⟨z, List.mem_cons_of_mem x hz, hd⟩

theorem not_mem_toDigits {c : Char} (hc : c.isDigit = false) (n : Nat) :
    c ∉ Nat.toDigits 10 n := by
  intro h
  rw [Nat.isDigit_of_mem_toDigits (by decide) (by decide) h] at hc
  cases hc

theorem IPAddressV4.str_injective {ip ip' : IPAddressV4} (h : ip.str = ip'.str) : ip = ip' := by
  have hparts : ∀ bytes : Bytes, ∀ x ∈ bytes.map fun b => Nat.toDigits 10 b.toNat, '.' ∉ x := by
    intro bytes x hx
    obtain ⟨b, -, rfl⟩ := List.mem_map.mp hx
    exact not_mem_toDigits rfl b.toNat
  have hlength : (ip.addr.val.map fun b => Nat.toDigits 10 b.toNat).length =
      (ip'.addr.val.map fun b => Nat.toDigits 10 b.toNat).length := by
    rw [List.length_map, List.length_map, ip.addr.property, ip'.addr.property]
  have hbytes := joinWith_injective (hparts _) (hparts _) hlength h
  have hval : ip.addr.val = ip'.addr.val := by
    refine List.map_injective_iff.mpr ?_ hbytes
    intro b b' hb
    have hdigits := congrArg (Nat.ofDigitChars 10 · 0) hb
    simp only [Nat.ofDigitChars_ten_toDigits] at hdigits
    exact UInt8.toNat_inj.mp hdigits
  obtain ⟨⟨bytes, hsize⟩⟩ := ip
  obtain ⟨⟨bytes', hsize'⟩⟩ := ip'
  cases hval
  rfl

theorem IPAddressV4.colon_not_mem_str (ip : IPAddressV4) : ':' ∉ ip.str := by
  intro h
  rcases mem_joinWith h with h | ⟨x, hx, hc⟩
  · cases h
  · obtain ⟨b, -, rfl⟩ := List.mem_map.mp hx
    exact not_mem_toDigits rfl b.toNat hc

theorem IPAddressV4.str_ne_nil (ip : IPAddressV4) : ip.str ≠ [] := by
  obtain ⟨⟨bytes, hsize⟩⟩ := ip
  match bytes, hsize with
  | [a, b, c, d], _ => exact List.append_ne_nil_of_right_ne_nil _ (List.cons_ne_nil _ _)

theorem IPAddress.str_injective {v6 : IPAddressV6 → List Char} (hv6 : CanonicalText v6) :
    Function.Injective (IPAddress.str v6) := by
  have hempty : ∀ ip, v6 ip ≠ [] := fun ip h => by
    have hcolon := hv6.colon ip
    rw [h] at hcolon
    cases hcolon
  have hfamily : ∀ (ip : IPAddressV4) ip', ip.str ≠ v6 ip' := fun ip ip' h => by
    have hcolon := hv6.colon ip'
    rw [← h] at hcolon
    exact ip.colon_not_mem_str hcolon
  intro ip ip' h
  cases ip with
  | empty =>
    cases ip' with
    | empty => rfl
    | v4 ip' => exact absurd h.symm ip'.str_ne_nil
    | v6 ip' => exact absurd h.symm (hempty ip')
  | v4 ip =>
    cases ip' with
    | empty => exact absurd h ip.str_ne_nil
    | v4 ip' => rw [IPAddressV4.str_injective h]
    | v6 ip' => exact absurd h (hfamily ip ip')
  | v6 ip =>
    cases ip' with
    | empty => exact absurd h (hempty ip)
    | v4 ip' => exact absurd h.symm (hfamily ip' ip)
    | v6 ip' => rw [hv6.injective h]

/-! ### What a token is bound to -/

/-- The second ID is longer by bytes whose hex digits the first address starts with, before the text
of the second address. -/
def Extends (v6 : IPAddressV6 → List Char) (c : BoundedConnectionId) (a : IPAddress)
    (c' : BoundedConnectionId) (a' : IPAddress) : Prop :=
  ∃ d ≠ [], c'.bytes = c.bytes ++ d ∧ a.str v6 = hexlify d ++ a'.str v6

section Joined

variable {v6 : IPAddressV6 → List Char} {c c' : BoundedConnectionId} {a a' : IPAddress}

theorem joined_of_le (hv6 : CanonicalText v6) (hle : c.bytes.length ≤ c'.bytes.length)
    (h : c.hex ++ a.str v6 = c'.hex ++ a'.str v6) : (c = c' ∧ a = a') ∨ Extends v6 c a c' a' := by
  obtain ⟨d, hbytes, hstr⟩ := hexlify_append_eq hle h
  by_cases hd : d = []
  · subst hd
    obtain ⟨bytes, hsize⟩ := c
    obtain ⟨bytes', hsize'⟩ := c'
    rw [List.append_nil] at hbytes
    cases hbytes
    exact .inl ⟨rfl, IPAddress.str_injective hv6 hstr⟩
  · exact .inr ⟨d, hd, hbytes, hstr⟩

theorem Extends.joined (h : Extends v6 c a c' a') :
    c.hex ++ a.str v6 = c'.hex ++ a'.str v6 := by
  obtain ⟨d, -, hbytes, hstr⟩ := h
  rw [BoundedConnectionId.hex, BoundedConnectionId.hex, hbytes, hstr, hexlify_append,
    List.append_assoc]

theorem Extends.ne (h : Extends v6 c a c' a') : c ≠ c' := by
  rintro rfl
  obtain ⟨d, hd, hbytes, -⟩ := h
  exact hd (List.self_eq_append_right.mp hbytes)

/-- Two pairs have one text if they are the same, or one ID extends the other. -/
theorem joined_eq_iff (hv6 : CanonicalText v6) :
    c.hex ++ a.str v6 = c'.hex ++ a'.str v6 ↔
      (c = c' ∧ a = a') ∨ Extends v6 c a c' a' ∨ Extends v6 c' a' c a := by
  constructor
  · intro h
    rcases Nat.le_total c.bytes.length c'.bytes.length with hle | hle
    · exact (joined_of_le hv6 hle h).imp_right .inl
    · rcases joined_of_le hv6 hle h.symm with ⟨rfl, rfl⟩ | hextends
      · exact .inl ⟨rfl, rfl⟩
      · exact .inr (.inr hextends)
  · rintro (⟨rfl, rfl⟩ | h | h)
    · rfl
    · exact h.joined
    · exact h.joined.symm

end Joined

theorem parsePlaintext_getPlaintextToken (timestampInMs : UInt64) :
    parsePlaintextRetryOrNewToken (getPlaintextToken timestampInMs) = some timestampInMs := by
  have hlength : (getPlaintextToken timestampInMs).length = 8 := length_beBytes 8 _
  have hvalue : beNat (getPlaintextToken timestampInMs) = timestampInMs.toNat :=
    beNat_beBytes_of_lt timestampInMs.toNat_lt
  unfold parsePlaintextRetryOrNewToken
  rw [if_pos hlength.ge, List.take_of_length_le hlength.le, hvalue, UInt64.ofNat_toNat]

theorem TokenCipher.decryptToken_encrypt (cipher : TokenCipher) (secret secret' : TokenSecret)
    (timestampInMs : UInt64) (assocData assocData' : List Char) :
    cipher.decryptToken secret'
        (cipher.encrypt secret (getPlaintextToken timestampInMs) assocData) assocData' =
      if secret = secret' ∧ assocData = assocData' then timestampInMs else 0 := by
  unfold decryptToken
  rw [cipher.decrypt_encrypt]
  split
  · next h =>
      split at h
      · cases h
      · next hne => rw [if_neg hne]
  · next h =>
      split at h
      · next heq =>
          cases h
          rw [if_pos heq, parsePlaintext_getPlaintextToken]
          rfl
      · cases h

/-- A token is in time. Time 0 stands for no time. -/
def InTime (nowInMs timestampInMs kTokenValidMs : UInt64) : Prop :=
  timestampInMs ≠ 0 ∧ checkTokenAge nowInMs timestampInMs kTokenValidMs = true

namespace TokenServer

variable (server : TokenServer) (secret : TokenSecret) (nowInMs : UInt64)

theorem validRetryToken_retryToken_iff (token : RetryToken) (dstConnId : BoundedConnectionId)
    (clientIp : IPAddress) :
    server.validRetryToken secret (server.retryToken secret token) dstConnId clientIp nowInMs ↔
      InTime nowInMs token.timestampInMs kMaxRetryTokenValidMs ∧
        token.originalDstConnId.hex ++ token.clientIp.str server.v6 =
          dstConnId.hex ++ clientIp.str server.v6 := by
  unfold validRetryToken retryToken
  dsimp only
  rw [TokenCipher.decryptToken_encrypt]
  unfold RetryToken.genAeadAssocData
  simp only [List.append_assoc, List.append_cancel_left_eq, true_and]
  split
  · next h => simp [InTime, h]
  · next h => simp [h]

theorem validNewToken_newToken_iff (token : NewToken) (clientIp : IPAddress)
    (hv6 : CanonicalText server.v6) :
    server.validNewToken secret (server.newToken secret token) clientIp nowInMs ↔
      InTime nowInMs token.timestampInMs kMaxNewTokenValidMs ∧ token.clientIp = clientIp := by
  unfold validNewToken newToken
  dsimp only
  rw [TokenCipher.decryptToken_encrypt]
  unfold NewToken.genAeadAssocData
  simp only [List.append_cancel_left_eq, true_and, (IPAddress.str_injective hv6).eq_iff]
  split
  · next h => simp [InTime, h]
  · next h => simp [h]

theorem validRetryToken_newToken (token : NewToken) (dstConnId : BoundedConnectionId)
    (clientIp : IPAddress) :
    server.validRetryToken secret (server.newToken secret token) dstConnId clientIp nowInMs =
      false := by
  unfold validRetryToken newToken
  dsimp only
  rw [TokenCipher.decryptToken_encrypt, if_neg]
  · rfl
  · rintro ⟨-, h⟩
    cases h

theorem validNewToken_retryToken (token : RetryToken) (clientIp : IPAddress) :
    server.validNewToken secret (server.retryToken secret token) clientIp nowInMs = false := by
  unfold validNewToken retryToken
  dsimp only
  rw [TokenCipher.decryptToken_encrypt, if_neg]
  · rfl
  · rintro ⟨-, h⟩
    cases h

/-- What has been handed out is a token of the server, under its data. -/
def Genuine (i : IssuedToken) : Prop :=
  ∃ secret, server.retryTokenSecret = some secret ∧
    ((∃ token : RetryToken, i = ⟨server.retryToken secret token, .retryToken, token.clientIp,
        token.timestampInMs⟩) ∨
      ∃ token : NewToken, i = ⟨server.newToken secret token, .newToken, token.clientIp,
        token.timestampInMs⟩)

variable {server} {secret}

theorem step_genuine {issued : List IssuedToken} (h : ∀ i ∈ issued, server.Genuine i)
    (e : TokenEvent) : ∀ i ∈ server.step issued e, server.Genuine i := by
  intro i hi
  cases e with
  | initial packet =>
    dsimp only [step] at hi
    split at hi
    · next secret token hsecret hdispatch =>
        rcases List.mem_append.mp hi with hi | hi
        · exact h i hi
        · exact ⟨secret, hsecret, .inl ⟨token, List.mem_singleton.mp hi⟩⟩
    · exact h i hi
  | newTokenFrame token =>
    dsimp only [step] at hi
    split at hi
    · next secret hsecret =>
        rcases List.mem_append.mp hi with hi | hi
        · exact h i hi
        · exact ⟨secret, hsecret, .inr ⟨token, List.mem_singleton.mp hi⟩⟩
    · exact h i hi

theorem run_genuine {issued : List IssuedToken} (h : ∀ i ∈ issued, server.Genuine i)
    (events : List TokenEvent) : ∀ i ∈ events.foldl server.step issued, server.Genuine i := by
  induction events generalizing issued with
  | nil => exact h
  | cons e events ih => exact ih (step_genuine h e)

/-- Without a secret the server hands out nothing. -/
theorem run_of_no_secret (hsecret : server.retryTokenSecret = none) (events : List TokenEvent) :
    events.foldl server.step [] = [] := by
  refine List.eq_nil_iff_forall_not_mem.mpr fun i hi => ?_
  obtain ⟨secret, h, -⟩ := run_genuine (fun i hi => absurd hi List.not_mem_nil) events i hi
  rw [hsecret] at h
  cases h

/-- Of the connections for which a secret is asked, those with a valid token are verified. -/
theorem verifies_of_secret (hsecret : server.retryTokenSecret = some secret)
    {packet : InitialPacket} (h : server.Verifies packet) :
    ∃ token, maybeGetEncryptedToken packet.data = some token ∧
      server.validNewToken secret token packet.client.ip packet.nowInMs = true := by
  unfold Verifies dispatchInitial at h
  split at h
  · cases h
  · rw [hsecret] at h
    cases htoken : maybeGetEncryptedToken packet.data with
    | none =>
      rw [htoken] at h
      dsimp only at h
      split at h
      · cases h
      · split at h
        · cases h
        · cases h
    | some token =>
      rw [htoken] at h
      dsimp only at h
      split at h
      · cases h
      · split at h
        · exact ⟨token, rfl, InitialOutcome.connection.inj h⟩
        · cases h

theorem age_of_inTime {timestampInMs kTokenValidMs : UInt64}
    (h : InTime nowInMs timestampInMs kTokenValidMs) :
    nowInMs.toNat - timestampInMs.toNat ≤ kTokenValidMs.toNat := by
  have hage := h.2
  unfold checkTokenAge at hage
  dsimp only at hage
  split at hage
  · next hlt =>
      have hle := UInt64.le_iff_toNat_le.mp (of_decide_eq_true hage)
      rwa [UInt64.toNat_sub_of_le _ _ (UInt64.le_of_lt hlt)] at hle
  · next hge =>
      have hle := UInt64.not_lt.mp hge
      rw [Nat.sub_eq_zero_of_le (UInt64.le_iff_toNat_le.mp hle)]
      exact Nat.zero_le _

theorem verifiesByToken_of_secret (hv6 : CanonicalText server.v6)
    (hsecret : server.retryTokenSecret = some secret) {events : List TokenEvent}
    (hunforged : server.Unforged events) : server.VerifiesByToken events := by
  intro before packet hprefix hverifies
  obtain ⟨token, htoken, hvalid⟩ := verifies_of_secret hsecret hverifies
  have hdecrypts : server.cipher.decrypt secret token
      (NewToken.genAeadAssocData server.v6 ⟨packet.client.ip, 0⟩) ≠ none := by
    intro hnone
    unfold validNewToken TokenCipher.decryptToken at hvalid
    dsimp only at hvalid
    rw [hnone] at hvalid
    cases hvalid
  obtain ⟨i, hi, rfl⟩ := hunforged before packet secret token _ hprefix hsecret htoken hdecrypts
  refine ⟨i, hi, htoken, ?_⟩
  obtain ⟨secret', hsecret', ⟨retry, rfl⟩ | ⟨new, rfl⟩⟩ :=
    run_genuine (fun i hi => absurd hi List.not_mem_nil) before i hi
  all_goals
    rw [hsecret, Option.some.injEq] at hsecret'
    subst hsecret'
  · rw [server.validNewToken_retryToken] at hvalid
    cases hvalid
  · obtain ⟨hinTime, hip⟩ := (server.validNewToken_newToken_iff secret _ new _ hv6).mp hvalid
    exact ⟨hip, age_of_inTime _ hinTime⟩

end TokenServer

/-- The packet is large enough, with an ID of a valid length, and the factory makes a transport. -/
def InitialPacket.Accepted (packet : InitialPacket) : Prop :=
  kMinInitialPacketSize ≤ packet.data.length ∧ isValidConnIdLength packet.dstConnId = true ∧
    packet.makesTransport = true

namespace TokenServer

variable {server : TokenServer}

theorem verifies_of_no_secret (hsecret : server.retryTokenSecret = none) (packet : InitialPacket) :
    server.Verifies packet ↔ packet.Accepted := by
  unfold Verifies dispatchInitial InitialPacket.Accepted
  rw [hsecret]
  dsimp only
  by_cases hsize : kMinInitialPacketSize ≤ packet.data.length
  · by_cases hid : isValidConnIdLength packet.dstConnId = true
    · simp [Nat.not_lt.mpr hsize, hid, hsize]
    · simp [hid]
  · simp [Nat.not_le.mp hsize, hsize]

theorem verifiesByToken_iff (hv6 : CanonicalText server.v6) {events : List TokenEvent}
    (hunforged : server.Unforged events) :
    server.VerifiesByToken events ↔
      server.retryTokenSecret.isSome ∨ ∀ packet, .initial packet ∈ events → ¬ packet.Accepted := by
  cases hsecret : server.retryTokenSecret with
  | some secret => exact iff_of_true (verifiesByToken_of_secret hv6 hsecret hunforged) (.inl rfl)
  | none =>
    constructor
    · intro hall
      refine .inr fun packet hpacket haccepted => ?_
      obtain ⟨before, after, rfl⟩ := List.append_of_mem hpacket
      have hprefix : before ++ [.initial packet] <+: before ++ .initial packet :: after :=
        ⟨after, by rw [List.append_assoc]; rfl⟩
      obtain ⟨i, hi, -⟩ := hall before packet hprefix
        ((verifies_of_no_secret hsecret packet).mpr haccepted)
      rw [run_of_no_secret hsecret] at hi
      cases hi
    · rintro (h | h)
      · cases h
      · intro before packet hprefix hverifies
        refine absurd ((verifies_of_no_secret hsecret packet).mp hverifies) (h packet ?_)
        exact hprefix.subset (List.mem_append_right _ (List.mem_singleton_self _))

/-- A Retry token is bound to its connection ID and its address exactly if it has expired or neither
ID extends the other. A NEW_TOKEN token is bound to its address, and the two kinds are kept apart. All
verified addresses have shown a token exactly if there is a secret or no connection is made. -/
theorem tokens_bound_iff (server : TokenServer) (hv6 : CanonicalText server.v6) :
    (∀ secret (token : RetryToken) dstConnId clientIp nowInMs,
      (server.validRetryToken secret (server.retryToken secret token) dstConnId clientIp nowInMs →
        token.originalDstConnId = dstConnId ∧ token.clientIp = clientIp) ↔
      ¬ (InTime nowInMs token.timestampInMs kMaxRetryTokenValidMs ∧
        (Extends server.v6 token.originalDstConnId token.clientIp dstConnId clientIp ∨
          Extends server.v6 dstConnId clientIp token.originalDstConnId token.clientIp))) ∧
    (∀ secret (token : NewToken) clientIp nowInMs,
      server.validNewToken secret (server.newToken secret token) clientIp nowInMs →
        token.clientIp = clientIp) ∧
    (∀ secret (token : NewToken) dstConnId clientIp nowInMs,
      server.validRetryToken secret (server.newToken secret token) dstConnId clientIp nowInMs =
        false) ∧
    (∀ secret (token : RetryToken) clientIp nowInMs,
      server.validNewToken secret (server.retryToken secret token) clientIp nowInMs = false) ∧
    ∀ events, server.Unforged events → (server.VerifiesByToken events ↔
      server.retryTokenSecret.isSome ∨
        ∀ packet, .initial packet ∈ events → ¬ packet.Accepted) := by
  refine ⟨?_, ?_, ?_, ?_, fun events => verifiesByToken_iff hv6⟩
  · intro secret token dstConnId clientIp nowInMs
    rw [server.validRetryToken_retryToken_iff, joined_eq_iff hv6]
    constructor
    · rintro hbound ⟨hinTime, hextends⟩
      obtain ⟨hid, -⟩ := hbound ⟨hinTime, .inr hextends⟩
      rcases hextends with h | h
      · exact h.ne hid
      · exact h.ne hid.symm
    · rintro hnot ⟨hinTime, hsame | hextends⟩
      · exact hsame
      · exact absurd ⟨hinTime, hextends⟩ hnot
  · intro secret token clientIp nowInMs hvalid
    exact ((server.validNewToken_newToken_iff secret nowInMs token clientIp hv6).mp hvalid).2
  · intro secret token dstConnId clientIp nowInMs
    exact server.validRetryToken_newToken secret nowInMs token dstConnId clientIp
  · intro secret token clientIp nowInMs
    exact server.validNewToken_retryToken secret nowInMs token clientIp

end TokenServer

/-! ### An instance -/

/-- What a token starts with that hides nothing and names its secret and its associated data. -/
def plainHeader (secret : TokenSecret) (assocData : List Char) : Bytes :=
  secret.val ++ ((assocData.flatMap fun c => 1 :: beBytes 4 c.toNat) ++ [0])

theorem marks_injective {assocData assocData' : List Char} {s t : Bytes}
    (h : (assocData.flatMap fun c => 1 :: beBytes 4 c.toNat) ++ 0 :: s =
      (assocData'.flatMap fun c => 1 :: beBytes 4 c.toNat) ++ 0 :: t) :
    assocData = assocData' ∧ s = t := by
  induction assocData generalizing assocData' with
  | nil =>
    cases assocData' with
    | nil => exact ⟨rfl, (List.cons.inj h).2⟩
    | cons c' assocData' => cases (List.cons.inj h).1
  | cons c assocData ih =>
    cases assocData' with
    | nil => cases (List.cons.inj h).1
    | cons c' assocData' =>
      simp only [List.flatMap_cons, List.cons_append, List.append_assoc, List.cons.injEq,
        true_and] at h
      obtain ⟨hchar, hrest⟩ := List.append_inj h (by rw [length_beBytes, length_beBytes])
      obtain ⟨rfl, hs⟩ := ih hrest
      have hlt : ∀ c : Char, c.toNat < 256 ^ 4 := fun c => c.val.toNat_lt
      have hval := congrArg beNat hchar
      rw [beNat_beBytes_of_lt (hlt c), beNat_beBytes_of_lt (hlt c')] at hval
      rw [Char.toNat_inj.mp hval]
      exact ⟨rfl, hs⟩

theorem plainHeader_injective {secret secret' : TokenSecret} {assocData assocData' : List Char}
    {s t : Bytes} (h : plainHeader secret assocData ++ s = plainHeader secret' assocData' ++ t) :
    secret = secret' ∧ assocData = assocData' ∧ s = t := by
  simp only [plainHeader, List.append_assoc] at h
  obtain ⟨hsecret, hrest⟩ := List.append_inj h (by rw [secret.property, secret'.property])
  exact ⟨Subtype.ext hsecret, marks_injective hrest⟩

def plainCipher : TokenCipher where
  encrypt secret plaintext assocData := plainHeader secret assocData ++ plaintext
  decrypt secret token assocData :=
    if plainHeader secret assocData <+: token then
      some (token.drop (plainHeader secret assocData).length)
    else none
  decrypt_encrypt secret secret' plaintext assocData assocData' := by
    by_cases h : secret = secret' ∧ assocData = assocData'
    · obtain ⟨rfl, rfl⟩ := h
      rw [if_pos (List.prefix_append ..), if_pos ⟨rfl, rfl⟩, List.drop_left]
    · rw [if_neg h, if_neg]
      rintro ⟨rest, hrest⟩
      obtain ⟨rfl, rfl, -⟩ := plainHeader_injective hrest
      exact h ⟨rfl, rfl⟩

/-- An IPv6 address with every byte written out. -/
def IPAddressV6.spelled (ip : IPAddressV6) : List Char :=
  joinWith ':' (ip.addr.val.map fun b => hexlify [b])

theorem spelled_canonical : CanonicalText IPAddressV6.spelled where
  injective := by
    rintro ⟨⟨bytes, hsize⟩⟩ ⟨⟨bytes', hsize'⟩⟩ h
    have hdigit : ∀ b : UInt8, ':' ∉ hexlify [b] := by
      have hall : ∀ i : Fin 256, ':' ∉ hexlify [UInt8.ofNat i] := by decide +kernel
      intro b hb
      refine hall ⟨b.toNat, b.toNat_lt⟩ ?_
      rwa [UInt8.ofNat_toNat]
    have hparts : ∀ bytes : Bytes, ∀ x ∈ bytes.map fun b => hexlify [b], ':' ∉ x := by
      intro bytes x hx
      obtain ⟨b, -, rfl⟩ := List.mem_map.mp hx
      exact hdigit b
    have hbytes := joinWith_injective (hparts _) (hparts _)
      (by rw [List.length_map, List.length_map, hsize, hsize']) h
    have hval : bytes = bytes' := by
      refine List.map_injective_iff.mpr ?_ hbytes
      intro b b' hb
      simp only [hexlify, List.flatMap_cons, List.flatMap_nil, List.append_nil, List.cons.injEq,
        and_true] at hb
      exact byte_of_digits hb.1 hb.2
    cases hval
    rfl
  colon ip := by
    obtain ⟨⟨bytes, hsize⟩⟩ := ip
    match bytes, hsize with
    | b :: b' :: rest, _ => exact List.mem_append_right _ List.mem_cons_self

def exampleServer (retryTokenSecret : Option TokenSecret) : TokenServer :=
  ⟨plainCipher, IPAddressV6.spelled, retryTokenSecret⟩

def exampleSecret : TokenSecret := ⟨List.replicate 32 7, rfl⟩

def eightByteId : BoundedConnectionId := ⟨List.replicate 8 1, by decide⟩

/-- The same ID, with a space behind it. -/
def nineByteId : BoundedConnectionId := ⟨List.replicate 8 1 ++ [0x20], by decide⟩

theorem newToken_other_address : CanonicalText IPAddressV6.spelled ∧
    ¬ (exampleServer (some exampleSecret)).validNewToken exampleSecret
      ((exampleServer (some exampleSecret)).newToken exampleSecret
        ⟨.v4 (.ofOctets 201 2 3 4), 5⟩) (.v4 (.ofOctets 1 2 3 4)) 6 := by
  refine ⟨spelled_canonical, fun h => ?_⟩
  have hbound := TokenServer.tokens_bound_iff (exampleServer (some exampleSecret))
    spelled_canonical
  have haddress := hbound.2.1 exampleSecret ⟨.v4 (.ofOctets 201 2 3 4), 5⟩ _ 6 h
  exact absurd haddress (by decide)

/-- `201.2.3.4` with the shorter ID reads as `1.2.3.4` with the longer one; and where there is no
secret, an address counts as verified without a token. -/
theorem tokens_not_bound :
    (exampleServer (some exampleSecret)).validRetryToken exampleSecret
        ((exampleServer (some exampleSecret)).retryToken exampleSecret
          ⟨eightByteId, .v4 (.ofOctets 201 2 3 4), 443, 5⟩)
        nineByteId (.v4 (.ofOctets 1 2 3 4)) 6 = true ∧
      (exampleServer none).Verifies ⟨⟨.v4 (.ofOctets 1 2 3 4), 443⟩, eightByteId,
        List.replicate 1200 0, 6, false, true⟩ := by
  constructor
  · refine (TokenServer.validRetryToken_retryToken_iff ..).mpr ⟨⟨by decide, by decide⟩, ?_⟩
    decide
  · refine (TokenServer.verifies_of_no_secret rfl _).mpr ⟨?_, by decide, rfl⟩
    rw [List.length_replicate]
    decide

end MasqueQuic
