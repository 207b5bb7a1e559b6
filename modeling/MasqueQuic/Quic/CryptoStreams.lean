/-
The crypto streams.

Each packet number space has a crypto stream, with the buffers that streams have and without
a FIN. The frames of the packets that answer for them are the entries of its retransmission
buffer; this is a contract (`cryptoFrames`) between the outstanding packets and the crypto
streams.
-/

import MasqueQuic.Quic.SendContract
import MasqueQuic.Quic.SendCoverage

namespace MasqueQuic

variable {ρ ε : Type}

structure CryptoState (ρ : Type) where
  /-- `initialStream`, `handshakeStream` and `oneRttStream`. -/
  cryptoStreams : PacketNumberSpace → SendLike
  other : ρ

inductive CryptoFailure (ε : Type) where
  | stream (fault : StreamFault)
  | implicitLoss    -- `LOG(FATAL)` in `implicitAckCryptoStream`
  | other (e : ε)
  deriving DecidableEq

/-- What the other frames of a packet do. -/
structure OtherCrypto (ρ ε : Type) where
  sent : OutstandingPacket → QuicWriteFrame → ρ → Except ε ρ
  acked : OutstandingPacket → QuicWriteFrame → ρ → Except ε ρ
  lost : OutstandingPacket → Bool → QuicWriteFrame → ρ → Except ε ρ
  spuriousLoss : WriteStreamFrame → ρ → Except ε ρ
  findStream : StreamId → ρ → Bool
  /-- `commonAckVisitorForAckFrame`. -/
  ackAcked : OutstandingPacket → ρ → ρ

/-- The stream of the crypto frames of a packet. A 0-RTT packet has none, and the source takes
the one of the handshake. -/
def getCryptoStream : ProtectionType → PacketNumberSpace
  | .initial => .initial
  | .handshake | .zeroRtt => .handshake
  | .keyPhaseZero | .keyPhaseOne => .appData

namespace SendLike

def processCryptoStreamAck (s : SendLike) (offset len : Nat) : SendLike :=
  match s.findSent offset with
  | none => s
  | some ackedBuffer => if ackedBuffer.data.chainLength = len then s.eraseSent offset else s

/-- `markPacketLoss` on a crypto frame. -/
def loseCrypto (s : SendLike) (offset : Nat) : SendLike :=
  match s.findSent offset with
  | none => s
  | some buffer =>
      { s with lossBuffer := insertIntoLossBuffer s.lossBuffer buffer }.eraseSent offset

/-- What `CryptoStreamScheduler` writes: the lost entries from the front and then new data, of
each what fits, until nothing does. -/
def writesCryptoData (s : SendLike) : List StreamBuffer → List StreamSpan → Bool
  | _, [] => true
  | buffer :: lossBuffer, f :: frames =>
      decide (f.offset = buffer.offset ∧ 0 < f.len ∧ f.len ≤ buffer.data.chainLength) &&
        s.writesCryptoData lossBuffer frames
  | [], f :: frames =>
      decide (f.offset = s.currentWriteOffset ∧ 0 < f.len ∧ f.len ≤ s.writeBuffer.chainLength) &&
        frames.isEmpty

end SendLike

def QuicWriteFrame.asWriteCryptoFrame : QuicWriteFrame → Option StreamSpan
  | .writeCrypto offset len => some ⟨offset, len, false⟩
  | _ => none

def cryptoSpans (frames : List QuicWriteFrame) : List StreamSpan :=
  frames.filterMap QuicWriteFrame.asWriteCryptoFrame

namespace CryptoState

def setStream (s : CryptoState ρ) (space : PacketNumberSpace) (stream : SendLike) : CryptoState ρ :=
  { s with cryptoStreams := Function.update s.cryptoStreams space stream }

def onOther (s : CryptoState ρ) (f : ρ → Except ε ρ) :
    Except (CryptoFailure ε) (CryptoState ρ) :=
  match f s.other with
  | .ok other => .ok { s with other }
  | .error e => .error (.other e)

/-- `writeDataToQuicStream` for a crypto stream. -/
def writeDataToQuicStream (s : CryptoState ρ) (space : PacketNumberSpace) (data : Buf) :
    CryptoState ρ :=
  s.setStream space
    { s.cryptoStreams space with writeBuffer := (s.cryptoStreams space).writeBuffer.append data }

/-- A frame of a packet is sent. -/
def frameSent (o : OtherCrypto ρ ε) (p : OutstandingPacket) (s : CryptoState ρ) :
    QuicWriteFrame → Except (CryptoFailure ε) (CryptoState ρ)
  | .writeCrypto offset len =>
      let space := getCryptoStream p.protectionType
      match (s.cryptoStreams space).handleStreamWritten offset len false with
      | .ok (stream, _) => .ok (s.setStream space stream)
      | .error fault => .error (.stream fault)
  | frame => s.onOther (o.sent p frame)

def ackCrypto (p : OutstandingPacket) (offset len : Nat) (s : CryptoState ρ) : CryptoState ρ :=
  let space := getCryptoStream p.protectionType
  s.setStream space ((s.cryptoStreams space).processCryptoStreamAck offset len)

def loseCrypto (p : OutstandingPacket) (offset : Nat) (s : CryptoState ρ) : CryptoState ρ :=
  let space := getCryptoStream p.protectionType
  s.setStream space ((s.cryptoStreams space).loseCrypto offset)

def frameAcked (o : OtherCrypto ρ ε) (p : OutstandingPacket) (frame : QuicWriteFrame)
    (s : CryptoState ρ) : Except (CryptoFailure ε) (CryptoState ρ) :=
  match frame with
  | .writeCrypto offset len => .ok (s.ackCrypto p offset len)
  | .writeAck => .ok { s with other := o.ackAcked p s.other }
  | frame => s.onOther (o.acked p frame)

/-- The ack visitor of `implicitAckCryptoStream`. The packets are those of the level whose
crypto stream it looks up. -/
def frameImplicitlyAcked (o : OtherCrypto ρ ε) (p : OutstandingPacket) (frame : QuicWriteFrame)
    (s : CryptoState ρ) : CryptoState ρ :=
  match frame with
  | .writeCrypto offset len => s.ackCrypto p offset len
  | .writeAck => { s with other := o.ackAcked p s.other }
  | _ => s

/-- `markPacketLoss` on one frame. -/
def frameLost (o : OtherCrypto ρ ε) (p : OutstandingPacket) (processed : Bool)
    (s : CryptoState ρ) : QuicWriteFrame → Except (CryptoFailure ε) (CryptoState ρ)
  | .writeCrypto offset _ => .ok (if processed then s else s.loseCrypto p offset)
  | frame => s.onOther (o.lost p processed frame)

/-- The end of `implicitAckCryptoStream`. -/
def cryptoDone (space : PacketNumberSpace) (s : CryptoState ρ) :
    Except (CryptoFailure ε) (CryptoState ρ) :=
  let stream := { s.cryptoStreams space with lossBuffer := [] }
  if stream.retransmissionBuffer.isEmpty ∧ stream.writeBuffer.empty then
    .ok (s.setStream space stream)
  else .error (.stream .cryptoAck)

/-- The crypto frames of a new packet are as scheduled; 0-RTT packets have none. -/
def schedules (s : CryptoState ρ) (packet : RegularQuicWritePacket) : Bool :=
  if packet.protectionType = .zeroRtt then (cryptoSpans packet.frames).isEmpty
  else
    let stream := s.cryptoStreams (getCryptoStream packet.protectionType)
    stream.writesCryptoData stream.lossBuffer (cryptoSpans packet.frames)

/-- `PacketRebuilder` writes the crypto frames whose entry is found. -/
def rebuilds (s : CryptoState ρ) (p : OutstandingPacket) (packet : RegularQuicWritePacket) : Bool :=
  let stream := s.cryptoStreams (getCryptoStream p.protectionType)
  decide (cryptoSpans packet.frames =
      (cryptoSpans p.frames).filter fun f => (stream.findSent f.offset).isSome) &&
    (packet.protectionType != .zeroRtt || (cryptoSpans packet.frames).isEmpty)

end CryptoState

def cryptoHandlers (o : OtherCrypto ρ ε) : Handlers (CryptoState ρ) (CryptoFailure ε) where
  packetSent p s := p.frames.foldlM (CryptoState.frameSent o p) s
  ackVisitor := CryptoState.frameAcked o
  lossVisitor p processed s := p.frames.foldlM (CryptoState.frameLost o p processed) s
  spuriousLoss frame s := s.onOther (o.spuriousLoss frame)
  findStream streamId s := o.findStream streamId s.other

/-- The handlers of an implicit ack. -/
def implicitCryptoHandlers (o : OtherCrypto ρ ε) : Handlers (CryptoState ρ) (CryptoFailure ε) where
  packetSent := (cryptoHandlers o).packetSent
  ackVisitor p frame s := .ok (CryptoState.frameImplicitlyAcked o p frame s)
  lossVisitor _ _ _ := .error .implicitLoss
  spuriousLoss := (cryptoHandlers o).spuriousLoss
  findStream := (cryptoHandlers o).findStream

/-! ### The balance -/

/-- The crypto frames of a packet that are entries of a stream. -/
def RegularQuicWritePacket.owes (packet : RegularQuicWritePacket) (space : PacketNumberSpace) :
    List StreamSpan :=
  if getCryptoStream packet.protectionType = space then cryptoSpans packet.frames else []

def cryptoOwed (packets : List RegularQuicWritePacket) (space : PacketNumberSpace) :
    List StreamSpan :=
  packets.flatMap (·.owes space)

/-- A crypto stream whose frames `owed` are on their way. Nothing has a FIN. -/
structure SendLike.CryptoBalanced (s : SendLike) (owed : List StreamSpan) : Prop where
  balanced : s.Balanced owed
  noFin : ∀ b ∈ s.lossBuffer, b.eof = false

namespace SendLike

variable {s : SendLike} {owed owed' : List StreamSpan} {f : StreamSpan} {frames : List StreamSpan}
  {done lossBuffer : List StreamBuffer}

theorem CryptoBalanced.perm (hb : s.CryptoBalanced owed) (hperm : owed.Perm owed') :
    s.CryptoBalanced owed' :=
  ⟨hb.balanced.perm hperm, hb.noFin⟩

/-- A frame that is on its way is acknowledged. -/
theorem CryptoBalanced.processCryptoStreamAck (hb : s.CryptoBalanced (f :: owed)) :
    (s.processCryptoStreamAck f.offset f.len).CryptoBalanced owed := by
  obtain ⟨b, hfind, rfl, -⟩ := hb.balanced.findSent
  unfold SendLike.processCryptoStreamAck
  rw [hfind]
  dsimp only
  have hlen : b.data.chainLength = b.span.len := rfl
  rw [if_pos hlen]
  exact ⟨hb.balanced.eraseSent, hb.noFin⟩

/-- A frame that is on its way is lost. -/
theorem CryptoBalanced.loseCrypto (hb : s.CryptoBalanced (f :: owed)) (hfin : f.fin = false) :
    (s.loseCrypto f.offset).CryptoBalanced owed := by
  obtain ⟨b, hfind, rfl, -⟩ := hb.balanced.findSent
  unfold SendLike.loseCrypto
  rw [hfind]
  exact ⟨hb.balanced.lose hfind,
    forall_insertIntoLossBuffer hb.noFin hfin fun _ _ _ => hfin⟩

theorem writesCryptoData_congr {t : SendLike} (hwrite : t.writeBuffer = s.writeBuffer)
    (hoffset : t.currentWriteOffset = s.currentWriteOffset) (lossBuffer : List StreamBuffer)
    (frames : List StreamSpan) :
    t.writesCryptoData lossBuffer frames = s.writesCryptoData lossBuffer frames := by
  induction frames generalizing lossBuffer with
  | nil => simp [writesCryptoData]
  | cons f frames ih =>
    cases lossBuffer with
    | nil => rw [writesCryptoData, writesCryptoData, hwrite, hoffset]
    | cons b lossBuffer => rw [writesCryptoData, writesCryptoData, ih]

/-- A frame of a new packet. `done` has been passed by the scheduler. -/
theorem CryptoBalanced.scheduled (hb : s.CryptoBalanced owed) (hfin : f.fin = false)
    (hloss : s.lossBuffer = done ++ lossBuffer)
    (hwrites : s.writesCryptoData lossBuffer (f :: frames) = true) :
    ∃ t isNew, s.handleStreamWritten f.offset f.len false = .ok (t, isNew) ∧
      t.CryptoBalanced (f :: owed) ∧
      ∃ done' lossBuffer', t.lossBuffer = done' ++ lossBuffer' ∧
        t.writesCryptoData lossBuffer' frames = true := by
  have hspan : f = ⟨f.offset, f.len, false⟩ := by rw [← hfin]
  cases lossBuffer with
  | nil =>
    obtain ⟨⟨hoffset, hpos, hle⟩, hnil⟩ :
        (f.offset = s.currentWriteOffset ∧ 0 < f.len ∧ f.len ≤ s.writeBuffer.chainLength) ∧
          frames = [] := by
      simpa [writesCryptoData] using hwrites
    have hdata : 0 < f.len ∨ false = true := .inl hpos
    obtain ⟨t, ht, hbalanced, hlost, -⟩ := hb.balanced.handleNewStreamDataWritten hle hdata
    refine ⟨t, true, ?_, ⟨?_, hlost ▸ hb.noFin⟩, t.lossBuffer, [], (List.append_nil _).symm, ?_⟩
    · rw [hoffset, handleStreamWritten_new, ht]
      rfl
    · rw [hspan, hoffset]
      exact hbalanced
    · rw [hnil]
      rfl
  | cons b lossBuffer =>
    obtain ⟨⟨hoffset, hpos, hle⟩, hrest⟩ :
        (f.offset = b.offset ∧ 0 < f.len ∧ f.len ≤ b.data.chainLength) ∧
          s.writesCryptoData lossBuffer frames = true := by
      simpa [writesCryptoData] using hwrites
    have hmem : b ∈ s.lossBuffer := by
      rw [hloss]
      exact List.mem_append_right _ List.mem_cons_self
    have hpart : f.len = b.data.chainLength ∧ false = b.eof ∨
        0 < f.len ∧ f.len ≤ b.data.chainLength ∧ false = false := .inr ⟨hpos, hle, rfl⟩
    obtain ⟨t, ht, hbalanced, ⟨rest, hlost, heof⟩, hwrite, hoff⟩ :=
      hb.balanced.handleRetransmissionWritten hloss hpart
    refine ⟨t, false, ?_, ⟨?_, fun a ha => ?_⟩, done ++ rest, lossBuffer, ?_, ?_⟩
    · rw [hoffset, hb.balanced.handleStreamWritten_lost hloss, ht]
      rfl
    · rw [hspan, hoffset]
      exact hbalanced
    · rw [hlost] at ha
      have hkept : ∀ a, a ∈ done ∨ a ∈ lossBuffer → a.eof = false := by
        intro a ha
        refine hb.noFin a ?_
        rw [hloss, List.mem_append, List.mem_cons]
        exact ha.imp_right .inr
      rcases List.mem_append.mp ha with ha | ha
      · exact hkept a (.inl ha)
      · rcases List.mem_append.mp ha with ha | ha
        · exact (heof a ha).1.trans (hb.noFin b hmem)
        · exact hkept a (.inr ha)
    · rw [hlost, List.append_assoc]
    · rw [← hrest]
      exact writesCryptoData_congr hwrite hoff lossBuffer frames

end SendLike

/-! ### The contract -/

/-- What is owed to each crypto stream is on its way. -/
def CryptoState.Owes (s : CryptoState ρ) (owed : PacketNumberSpace → List StreamSpan) : Prop :=
  ∀ space, (s.cryptoStreams space).CryptoBalanced (owed space)

section Handlers

variable {o : OtherCrypto ρ ε} {s t : CryptoState ρ} {owed owed' : PacketNumberSpace → List StreamSpan}
  {p : OutstandingPacket} {key : ProtectionType} {frame : QuicWriteFrame}
  {frames : List QuicWriteFrame} {offset len : Nat} {space : PacketNumberSpace}
  {a b packet : RegularQuicWritePacket} {cs : List RegularQuicWritePacket}

theorem cryptoSpans_cons_other (hframe : frame.asWriteCryptoFrame = none) :
    cryptoSpans (frame :: frames) = cryptoSpans frames :=
  List.filterMap_cons_none hframe

theorem owes_cons_other (hframe : frame.asWriteCryptoFrame = none) (key : ProtectionType) :
    (RegularQuicWritePacket.mk key (frame :: frames)).owes =
      (RegularQuicWritePacket.mk key frames).owes := by
  funext space
  unfold RegularQuicWritePacket.owes
  rw [cryptoSpans_cons_other hframe]

theorem owes_cons_crypto :
    (RegularQuicWritePacket.mk key (.writeCrypto offset len :: frames)).owes (getCryptoStream key) =
      ⟨offset, len, false⟩ ::
        (RegularQuicWritePacket.mk key frames).owes (getCryptoStream key) := by
  unfold RegularQuicWritePacket.owes
  rw [if_pos rfl, if_pos rfl]
  rfl

theorem owes_of_ne (hspace : space ≠ getCryptoStream packet.protectionType) :
    packet.owes space = [] :=
  if_neg hspace.symm

theorem CryptoState.Owes.perm (hs : s.Owes owed) (hperm : ∀ space, (owed space).Perm (owed' space)) :
    s.Owes owed' :=
  fun space => (hs space).perm (hperm space)

/-- One stream changes, and what is owed to it. -/
theorem CryptoState.Owes.setStream {stream : SendLike} (hs : s.Owes owed)
    (hstream : stream.CryptoBalanced (owed' space))
    (hother : ∀ space', space' ≠ space → owed' space' = owed space') :
    (s.setStream space stream).Owes owed' := by
  intro space'
  unfold CryptoState.setStream
  dsimp only
  by_cases heq : space' = space
  · subst heq
    rw [Function.update_self]
    exact hstream
  · rw [Function.update_of_ne heq, hother space' heq]
    exact hs space'

/-- The first frame of the packet is no longer owed. -/
theorem CryptoState.Owes.visit {stream : SendLike}
    (hs : s.Owes fun space =>
      (RegularQuicWritePacket.mk key (.writeCrypto offset len :: frames)).owes space ++ owed space)
    (hstream : ∀ rest, (s.cryptoStreams (getCryptoStream key)).CryptoBalanced
      (⟨offset, len, false⟩ :: rest) → stream.CryptoBalanced rest) :
    (s.setStream (getCryptoStream key) stream).Owes fun space =>
      (RegularQuicWritePacket.mk key frames).owes space ++ owed space := by
  refine hs.setStream (hstream _ ?_) fun space hspace => ?_
  · have hfirst := hs (getCryptoStream key)
    dsimp only at hfirst
    rwa [owes_cons_crypto] at hfirst
  · rw [owes_of_ne hspace, owes_of_ne hspace]

/-- No frame of the packet is left. -/
theorem CryptoState.Owes.visited
    (hs : s.Owes fun space => (RegularQuicWritePacket.mk key []).owes space ++ owed space) :
    s.Owes owed := by
  intro space
  have hspace := hs space
  dsimp only at hspace
  rwa [RegularQuicWritePacket.owes, cryptoSpans, List.filterMap_nil, ite_self,
    List.nil_append] at hspace

/-- Handlers of other frames leave the crypto streams alone. -/
theorem CryptoState.onOther_ends {E : CryptoFailure ε → Prop} (s : CryptoState ρ)
    (f : ρ → Except ε ρ) (hE : ∀ e, E (.other e)) :
    Ends E (s.onOther f) (fun t => t.cryptoStreams = s.cryptoStreams) := by
  unfold CryptoState.onOther
  cases f s.other with
  | error e => exact .error (hE e)
  | ok other => exact .ok rfl

theorem CryptoState.Owes.of_eq (hs : s.Owes owed) (heq : t.cryptoStreams = s.cryptoStreams) :
    t.Owes owed := by
  intro space
  rw [heq]
  exact hs space

theorem CryptoState.Owes.onOther (hs : s.Owes owed) (f : ρ → Except ε ρ) :
    Ends (fun _ => True) (s.onOther f) (·.Owes owed) :=
  (s.onOther_ends f fun _ => trivial).imp fun _ ht => hs.of_eq ht

theorem CryptoState.Owes.frameAcked
    (hs : s.Owes fun space =>
      (RegularQuicWritePacket.mk p.protectionType (frame :: frames)).owes space ++ owed space) :
    Ends (fun _ => True) (CryptoState.frameAcked o p frame s) (·.Owes fun space =>
      (RegularQuicWritePacket.mk p.protectionType frames).owes space ++ owed space) := by
  cases frame with
  | writeCrypto offset len =>
    exact .ok (hs.visit fun _ hb => SendLike.CryptoBalanced.processCryptoStreamAck hb)
  | writeAck => exact .ok (hs.of_eq rfl)
  | _ =>
    rw [owes_cons_other rfl] at hs
    exact hs.onOther _

theorem CryptoState.Owes.frameImplicitlyAcked
    (hs : s.Owes fun space =>
      (RegularQuicWritePacket.mk p.protectionType (frame :: frames)).owes space ++ owed space) :
    (CryptoState.frameImplicitlyAcked o p frame s).Owes fun space =>
      (RegularQuicWritePacket.mk p.protectionType frames).owes space ++ owed space := by
  cases frame with
  | writeCrypto offset len =>
    exact hs.visit fun _ hb => SendLike.CryptoBalanced.processCryptoStreamAck hb
  | writeAck => exact hs.of_eq rfl
  | _ =>
    rw [owes_cons_other rfl] at hs
    exact hs

theorem CryptoState.Owes.frameLost
    (hs : s.Owes fun space =>
      (RegularQuicWritePacket.mk p.protectionType (frame :: frames)).owes space ++ owed space) :
    Ends (fun _ => True) (CryptoState.frameLost o p false s frame) (·.Owes fun space =>
      (RegularQuicWritePacket.mk p.protectionType frames).owes space ++ owed space) := by
  cases frame with
  | writeCrypto offset len =>
    exact .ok (hs.visit fun _ hb => SendLike.CryptoBalanced.loseCrypto hb rfl)
  | _ =>
    rw [owes_cons_other rfl] at hs
    exact hs.onOther _

theorem CryptoState.Owes.frameLost_processed (hs : s.Owes owed) :
    Ends (fun _ => True) (CryptoState.frameLost o p true s frame) (·.Owes owed) := by
  cases frame with
  | writeCrypto offset len => exact .ok hs
  | _ => exact hs.onOther _

/-- The packet that answers may be replaced by a copy of it. -/
theorem CryptoState.Owes.copy (hs : s.Owes (cryptoOwed (a :: cs)))
    (hcopy : ∀ space, a.owes space = b.owes space) :
    s.Owes fun space => b.owes space ++ cryptoOwed cs space := by
  intro space
  have hspace := hs space
  rw [cryptoOwed, List.flatMap_cons, hcopy] at hspace
  exact hspace

/-- No more is written to the streams and nothing is sent. -/
def CryptoState.SameWrites (s t : CryptoState ρ) : Prop :=
  ∀ space, (t.cryptoStreams space).writeBuffer = (s.cryptoStreams space).writeBuffer

theorem CryptoState.frameImplicitlyAcked_sameWrites (s : CryptoState ρ) :
    s.SameWrites (CryptoState.frameImplicitlyAcked o p frame s) := by
  intro space
  cases frame with
  | writeCrypto offset len =>
    have hstream : ∀ stream : SendLike,
        (stream.processCryptoStreamAck offset len).writeBuffer = stream.writeBuffer := by
      intro stream
      unfold SendLike.processCryptoStreamAck
      split
      · rfl
      · split <;> rfl
    change (Function.update s.cryptoStreams (getCryptoStream p.protectionType) _ space).writeBuffer
      = _
    by_cases heq : space = getCryptoStream p.protectionType
    · rw [heq, Function.update_self, hstream]
    · rw [Function.update_of_ne heq]
  | _ => rfl

/-- All frames of a packet are acknowledged implicitly. -/
theorem implicitlyAcked_ends (hs : s.Owes (cryptoOwed (a :: cs)))
    (hcopy : ∀ space, a.owes space = p.sent.owes space) :
    Ends (fun _ => False)
      (p.frames.foldlM (fun s frame => (implicitCryptoHandlers o).ackVisitor p frame s) s)
      (fun t => t.Owes (cryptoOwed cs) ∧ s.SameWrites t) := by
  have hfold := Ends.foldlM (E := fun _ : CryptoFailure ε => False)
    (f := fun s frame => (implicitCryptoHandlers o).ackVisitor p frame s)
    (I := fun (t : CryptoState ρ) frames => (t.Owes fun space =>
      (RegularQuicWritePacket.mk p.protectionType frames).owes space ++ cryptoOwed cs space) ∧
        s.SameWrites t)
    (fun t frame frames ht => .ok ⟨ht.1.frameImplicitlyAcked, fun space =>
      (t.frameImplicitlyAcked_sameWrites space).trans (ht.2 space)⟩)
    ⟨hs.copy hcopy, fun _ => rfl⟩
  exact hfold.imp fun t ht => ⟨ht.1.visited, ht.2⟩

end Handlers

/-- The frames of the packets that answer for them are the entries of the retransmission
buffers. -/
def cryptoFrames (o : OtherCrypto ρ ε) : Contract (cryptoHandlers o) (fun _ => True) where
  Holds cs s := s.Owes (cryptoOwed cs)
  Copy a b _ := ∀ space, a.owes space = b.owes space
  Spurious _ _ := True
  Later _ _ := True
  later_refl _ := trivial
  later_trans _ _ := trivial
  copy_refl _ _ _ := rfl
  copy_trans hab hbd space := (hab space).trans (hbd space)
  copy_later hab _ := hab
  holds_perm hperm hs := hs.perm fun _ => hperm.flatMap_right _
  ack := by
    intro a cs s p hs hcopy
    have hfold := Ends.foldlM
      (I := fun (t : CryptoState ρ) frames => t.Owes fun space =>
        (RegularQuicWritePacket.mk p.protectionType frames).owes space ++ cryptoOwed cs space)
      (fun t frame frames ht => ht.frameAcked (o := o)) (hs.copy hcopy)
    exact hfold.imp fun t ht => ⟨ht.visited, trivial⟩
  ackProcessed hs := .ok ⟨hs.of_eq rfl, trivial⟩
  loss := by
    intro a cs s p hs hcopy
    have hfold := Ends.foldlM
      (I := fun (t : CryptoState ρ) frames => t.Owes fun space =>
        (RegularQuicWritePacket.mk p.protectionType frames).owes space ++ cryptoOwed cs space)
      (fun t frame frames ht => ht.frameLost (o := o)) (hs.copy hcopy)
    exact hfold.imp fun t ht => ⟨ht.visited, trivial⟩
  lossProcessed := by
    intro cs s p hs
    exact (Ends.foldlM (I := fun (t : CryptoState ρ) _ => t.Owes (cryptoOwed cs))
      (fun t frame frames ht => ht.frameLost_processed) hs).imp fun t ht => ⟨ht, trivial⟩
  spurious hs _ := (hs.onOther _).imp fun _ ht => ⟨ht, trivial⟩

/-- The handlers of an implicit ack with a loss visitor that does not fail. -/
def quietCryptoHandlers (o : OtherCrypto ρ ε) : Handlers (CryptoState ρ) (CryptoFailure ε) :=
  { implicitCryptoHandlers o with
    lossVisitor := fun p processed s =>
      if processed then .ok s
      else p.frames.foldlM (fun s frame => (implicitCryptoHandlers o).ackVisitor p frame s) s }

/-- The contract again, for an implicit ack: its handlers do not fail. -/
def implicitCryptoFrames (o : OtherCrypto ρ ε) :
    Contract (quietCryptoHandlers o) (fun _ => False) where
  Holds cs s := s.Owes (cryptoOwed cs)
  Copy a b _ := ∀ space, a.owes space = b.owes space
  Spurious _ _ := False
  Later := CryptoState.SameWrites
  later_refl _ _ := rfl
  later_trans hst htu space := (htu space).trans (hst space)
  copy_refl _ _ _ := rfl
  copy_trans hab hbd space := (hab space).trans (hbd space)
  copy_later hab _ := hab
  holds_perm hperm hs := hs.perm fun _ => hperm.flatMap_right _
  ack hs hcopy := implicitlyAcked_ends hs hcopy
  ackProcessed hs := .ok ⟨hs.of_eq rfl, fun _ => rfl⟩
  loss hs hcopy := implicitlyAcked_ends hs hcopy
  lossProcessed hs := .ok ⟨hs, fun _ => rfl⟩
  spurious _ hspurious := False.elim hspurious

/-! ### Sending -/

section Sending

variable {o : OtherCrypto ρ ε} {s t : CryptoState ρ} {p : OutstandingPacket}
  {frame : QuicWriteFrame} {frames : List QuicWriteFrame} {packet : RegularQuicWritePacket}
  {cs : List RegularQuicWritePacket} {owed : PacketNumberSpace → List StreamSpan}

/-- The crypto frames that are left are as scheduled. -/
def CryptoState.Pending (s : CryptoState ρ) (key : ProtectionType) (frames : List QuicWriteFrame) :
    Prop :=
  ∃ done lossBuffer, (s.cryptoStreams (getCryptoStream key)).lossBuffer = done ++ lossBuffer ∧
    (s.cryptoStreams (getCryptoStream key)).writesCryptoData lossBuffer (cryptoSpans frames) = true

theorem CryptoState.pending_of_schedules (hs : s.schedules packet = true) :
    s.Pending packet.protectionType packet.frames := by
  refine ⟨[], _, rfl, ?_⟩
  unfold CryptoState.schedules at hs
  by_cases hkey : packet.protectionType = .zeroRtt
  · rw [if_pos hkey] at hs
    rw [List.isEmpty_iff.mp hs, SendLike.writesCryptoData]
  · rwa [if_neg hkey] at hs

/-- One frame of a new packet is sent. -/
theorem CryptoState.Owes.frameSent (hs : s.Owes owed)
    (hpending : s.Pending p.protectionType (frame :: frames)) :
    Ends (fun _ => True) (CryptoState.frameSent o p s frame) (fun t =>
      t.Pending p.protectionType frames ∧ t.Owes fun space =>
        (RegularQuicWritePacket.mk p.protectionType [frame]).owes space ++ owed space) := by
  have hother : ∀ f : ρ → Except ε ρ, frame.asWriteCryptoFrame = none →
      Ends (fun _ => True) (s.onOther f) (fun t =>
        t.Pending p.protectionType frames ∧ t.Owes fun space =>
          (RegularQuicWritePacket.mk p.protectionType [frame]).owes space ++ owed space) := by
    intro f hframe
    refine (s.onOther_ends f fun _ => trivial).imp fun t ht => ⟨?_, ?_⟩
    · unfold CryptoState.Pending at hpending ⊢
      rwa [cryptoSpans_cons_other hframe, ← ht] at hpending
    · refine (hs.of_eq ht).perm fun space => ?_
      rw [owes_cons_other hframe, RegularQuicWritePacket.owes, cryptoSpans, List.filterMap_nil,
        ite_self, List.nil_append]
  cases frame with
  | writeCrypto offset len =>
    obtain ⟨done, lossBuffer, hloss, hwrites⟩ := hpending
    obtain ⟨stream, isNew, hwritten, hbalanced, hrest⟩ :=
      (hs (getCryptoStream p.protectionType)).scheduled (f := ⟨offset, len, false⟩) rfl hloss
        hwrites
    rw [CryptoState.frameSent, hwritten]
    refine .ok ⟨?_, hs.setStream ?_ fun space hspace => ?_⟩
    · unfold CryptoState.Pending CryptoState.setStream
      dsimp only
      rw [Function.update_self]
      exact hrest
    · rw [owes_cons_crypto, RegularQuicWritePacket.owes, cryptoSpans, List.filterMap_nil, ite_self]
      exact hbalanced
    · rw [owes_of_ne hspace]
      rfl
  | _ => exact hother _ rfl

/-- A new packet is sent with crypto frames as scheduled. -/
theorem CryptoState.Owes.packetSent (hs : s.Owes (cryptoOwed cs))
    (hschedules : s.schedules p.sent = true) :
    Ends (fun _ => True) ((cryptoHandlers o).packetSent p s)
      (·.Owes (cryptoOwed (p.sent :: cs))) := by
  have hsplit : ∀ (frame : QuicWriteFrame) (frames : List QuicWriteFrame) space,
      (RegularQuicWritePacket.mk p.protectionType (frame :: frames)).owes space =
        (RegularQuicWritePacket.mk p.protectionType [frame]).owes space ++
          (RegularQuicWritePacket.mk p.protectionType frames).owes space := by
    intro frame frames space
    unfold RegularQuicWritePacket.owes
    split
    · exact List.filterMap_append (l := [frame])
    · rfl
  have hfold : Ends (fun _ => True) (p.frames.foldlM (CryptoState.frameSent o p) s) (fun t =>
      t.Pending p.protectionType [] ∧ ∃ out : PacketNumberSpace → List StreamSpan, t.Owes out ∧
        ∀ space, (out space ++ (RegularQuicWritePacket.mk p.protectionType []).owes space).Perm
          (cryptoOwed (p.sent :: cs) space)) := by
    refine Ends.foldlM (I := fun (t : CryptoState ρ) frames =>
      t.Pending p.protectionType frames ∧ ∃ out : PacketNumberSpace → List StreamSpan, t.Owes out ∧
        ∀ space, (out space ++ (RegularQuicWritePacket.mk p.protectionType frames).owes space).Perm
          (cryptoOwed (p.sent :: cs) space)) (fun t frame frames ht => ?_)
      ⟨CryptoState.pending_of_schedules hschedules, _, hs, fun space => List.perm_append_comm⟩
    obtain ⟨hpending, out, hout, hperm⟩ := ht
    refine (hout.frameSent hpending).imp fun u hu => ⟨hu.1, _, hu.2, fun space => ?_⟩
    refine List.Perm.trans ?_ (hperm space)
    rw [hsplit frame frames space, List.append_assoc]
    exact List.perm_append_comm_assoc _ _ _
  refine hfold.imp fun t ht => ?_
  obtain ⟨-, out, hout, hperm⟩ := ht
  refine hout.perm fun space => ?_
  have hspace := hperm space
  rwa [RegularQuicWritePacket.owes, cryptoSpans, List.filterMap_nil, ite_self,
    List.append_nil] at hspace

/-- The frames of a clone are on their way already. -/
theorem CryptoState.Owes.cloneSent (hs : s.Owes owed)
    (howed : ∀ f ∈ cryptoSpans p.frames, f ∈ owed (getCryptoStream p.protectionType)) :
    Ends (fun _ => True) ((cryptoHandlers o).packetSent p s) (·.Owes owed) := by
  have hfold : Ends (fun _ => True) (p.frames.foldlM (CryptoState.frameSent o p) s) (fun t =>
      t.Owes owed ∧ ∀ f ∈ cryptoSpans [], f ∈ owed (getCryptoStream p.protectionType)) := by
    refine Ends.foldlM (I := fun (t : CryptoState ρ) frames =>
      t.Owes owed ∧ ∀ f ∈ cryptoSpans frames, f ∈ owed (getCryptoStream p.protectionType))
      (fun t frame frames ht => ?_) ⟨hs, howed⟩
    obtain ⟨ht, hframes⟩ := ht
    cases frame with
    | writeCrypto offset len =>
      obtain ⟨hfirst, hrest⟩ := List.forall_mem_cons.mp hframes
      have hcloned : (t.cryptoStreams (getCryptoStream p.protectionType)).handleStreamWritten offset
          len false = .ok (t.cryptoStreams (getCryptoStream p.protectionType), false) :=
        (ht _).balanced.handleStreamWritten_cloned hfirst
      rw [CryptoState.frameSent, hcloned]
      exact .ok ⟨ht.of_eq (Function.update_eq_self _ _), hrest⟩
    | _ => exact (ht.onOther _).imp fun u hu => ⟨hu, hframes⟩
  exact hfold.imp fun t ht => ht.1

end Sending

end MasqueQuic
