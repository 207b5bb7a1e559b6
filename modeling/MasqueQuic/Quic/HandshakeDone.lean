/-
The end of the handshake on a server.

`HANDSHAKE_DONE` is a control frame that is handed over once. Its acknowledgement confirms
the handshake: the ciphers of the first two packet number spaces go, what is outstanding in
them is acknowledged implicitly, and their ack states are destroyed. A second confirmation
would meet them destroyed.
-/

import MasqueQuic.Quic.ControlFrames

namespace MasqueQuic

variable {ρ ε : Type}

structure ServerSend (ρ : Type) where
  conn : SendConn (ControlState ρ)
  initialReadCipher : Bool
  initialWriteCipher : Bool
  handshakeReadCipher : Bool
  handshakeWriteCipher : Bool
  /-- The handshake layer has handed out the handshake ciphers; it does so once. -/
  handshakeKeys : Bool

/-! ### Implicit acks -/

def implicitAckCryptoStream (o : OtherFrames ρ ε) (space : PacketNumberSpace) (times : AckTimes)
    (c : SendConn (ControlState ρ)) :
    Except (SendFailure (ControlFailure ε)) (SendConn (ControlState ρ)) := do
  let _ ← getAckState c space
  match (c.outstandings.packets.filter (own space)).map (·.packetNum) with
  | [] => .ok c
  | first :: others => do
      let (c, _) ← processAckFrame (controlHandlers o true) space (implicitAck first others) times c
      let rest ← liftHandler (c.rest.onOther (o.cryptoDone space))
      return { c with rest }

/-- `confirmations` counts the calls. -/
def handshakeConfirmed (o : OtherFrames ρ ε) (times : AckTimes) (c : ServerSend ρ) :
    Except (SendFailure (ControlFailure ε)) (ServerSend ρ) := do
  let rest := { c.conn.rest with
    handshakeConfirmedThisLoop := false
    confirmations := c.conn.rest.confirmations + 1 }
  let conn ← implicitAckCryptoStream o .initial times { c.conn with rest }
  let conn ← implicitAckCryptoStream o .handshake times
    { conn with ackStates := conn.ackStates.reset .initial }
  return {
    conn := { conn with ackStates := conn.ackStates.reset .handshake }
    initialReadCipher := false
    initialWriteCipher := false
    handshakeReadCipher := false
    handshakeWriteCipher := false
    handshakeKeys := c.handshakeKeys }

/-! ### Events -/

/-- What happens to control frames apart from packets. -/
inductive ControlEvent (ρ ε : Type) where
  | sendSimpleFrame (frame : QuicSimpleFrame)
  | openStream (streamId : StreamId)
  | removeStream (streamId : StreamId)
  /-- Path validation is started, ends or times out. -/
  | path (pathChallenge outstandingPathValidation : Option Nat)
  | other (f : ρ → Except ε ρ)

/-- The frames that callers hand to `sendSimpleFrame`. Path challenges are kept elsewhere,
`HANDSHAKE_DONE` is up to `updateHandshakeState`, and `stopSending` looks for the stream. -/
def ControlState.mayHand (s : ControlState ρ) : QuicSimpleFrame → Bool
  | .pathChallenge _ => false
  | .handshakeDone => false
  | .stopSending streamId _ => decide (streamId ∈ s.openStreams)
  | _ => true

/-- The ids of streams are not used again. -/
def ControlState.step (s : ControlState ρ) :
    ControlEvent ρ ε → Except (ControlFailure ε) (ControlState ρ)
  | .sendSimpleFrame frame => .ok (if s.mayHand frame then s.sendSimpleFrame frame else s)
  | .openStream streamId =>
      .ok (if streamId ∈ s.closedStreams then s
        else { s with openStreams := insert streamId s.openStreams })
  | .removeStream streamId =>
      .ok { s with
        openStreams := s.openStreams.erase streamId
        closedStreams := insert streamId s.closedStreams }
  | .path pathChallenge outstandingPathValidation =>
      .ok { s with pathChallenge, outstandingPathValidation }
  | .other f => s.onOther f

/-- The frames of a received packet. -/
inductive ReceivedFrame (ρ ε : Type) where
  | ack (frame : ReadAckFrame) (times : AckTimes)
  | control (e : ControlEvent ρ ε)

inductive ServerEvent (ρ ε : Type) where
  | control (e : ControlEvent ρ ε)
  | installHandshakeKeys
  | updateHandshakeState
  | send (packet : RegularQuicWritePacket) (sentTime : Nat)
  | sendDsr (frames : List QuicWriteFrame) (sentTime : Nat)
  | clone (index : Nat) (packet : RegularQuicWritePacket) (sentTime : Option Nat)
  | receive (space : PacketNumberSpace) (frames : List (ReceivedFrame ρ ε)) (times : AckTimes)
  | lossTimer (space : PacketNumberSpace) (now : Nat)
  | zeroRttRejected
  | tune (lossState : LossState) (transportSettings : TransportSettings)

def receiveFrame (o : OtherFrames ρ ε) (space : PacketNumberSpace)
    (c : SendConn (ControlState ρ)) :
    ReceivedFrame ρ ε → Except (SendFailure (ControlFailure ε)) (SendConn (ControlState ρ))
  | .ack frame times => do
      let (c, _) ← processAckFrame (controlHandlers o false) space frame times c
      return c
  | .control e => do
      let rest ← liftHandler (c.rest.step e)
      return { c with rest }

namespace ServerSend

def canRead (c : ServerSend ρ) : PacketNumberSpace → Bool
  | .initial => c.initialReadCipher
  | .handshake => c.handshakeReadCipher
  | .appData => true

def canWrite (c : ServerSend ρ) : PacketNumberSpace → Bool
  | .initial => c.initialWriteCipher
  | .handshake => c.handshakeWriteCipher
  | .appData => true

/-- `onServerReadDataFromOpen` for one packet that can be decrypted. -/
def receive (o : OtherFrames ρ ε) (space : PacketNumberSpace) (frames : List (ReceivedFrame ρ ε))
    (times : AckTimes) (c : ServerSend ρ) :
    Except (SendFailure (ControlFailure ε)) (ServerSend ρ) := do
  let _ ← getAckState c.conn space
  let rest := { c.conn.rest with handshakeConfirmedThisLoop := false }
  let conn ← frames.foldlM (receiveFrame o space) { c.conn with rest }
  -- outside of the loop, to avoid a re-entrancy
  let c ← (if conn.rest.handshakeConfirmedThisLoop then handshakeConfirmed o times { c with conn }
    else .ok { c with conn })
  if space = .handshake ∧ c.initialWriteCipher then
    let conn ← implicitAckCryptoStream o .initial times c.conn
    return { c with conn, initialReadCipher := false, initialWriteCipher := false }
  else return c

/-- A step of the connection. -/
def onConn (c : ServerSend ρ)
    (x : Except (SendFailure (ControlFailure ε)) (SendConn (ControlState ρ))) :
    Except (SendFailure (ControlFailure ε)) (ServerSend ρ) := do
  let conn ← x
  return { c with conn }

/-- Packets are written and read while there are ciphers for them. The loss timer of a space
is set for an outstanding packet of the space, until loss detection runs there again. -/
def step (o : OtherFrames ρ ε) (c : ServerSend ρ) :
    ServerEvent ρ ε → Except (SendFailure (ControlFailure ε)) (ServerSend ρ)
  | .control e => c.onConn (receiveFrame o .appData c.conn (.control e))
  | .installHandshakeKeys =>
      .ok (if c.handshakeKeys then c
        else { c with
          handshakeReadCipher := true
          handshakeWriteCipher := true
          handshakeKeys := true })
  | .updateHandshakeState =>
      -- the handshake is done after the handshake keys were used
      .ok (if c.handshakeKeys ∧ ¬ c.conn.rest.sentHandshakeDone then
          { c with
            conn.rest := { c.conn.rest.sendSimpleFrame .handshakeDone with
              sentHandshakeDone := true } }
        else c)
  | .send packet sentTime =>
      if c.canWrite packet.packetNumberSpace ∧ c.conn.rest.Schedules packet then
        c.onConn (updateConnection (controlHandlers o false) c.conn none packet sentTime false)
      else .ok c
  | .sendDsr frames sentTime =>
      if simpleFrames frames = [] then
        c.onConn (updateConnection (controlHandlers o false) c.conn none ⟨.keyPhaseZero, frames⟩
          sentTime true)
      else .ok c
  | .clone index packet sentTime =>
      if c.canWrite packet.packetNumberSpace ∧
          c.conn.outstandings.packets[index]?.all (fun p => c.conn.rest.Rebuilds p packet) then
        c.onConn (clonePacket (controlHandlers o false) c.conn index packet sentTime)
      else .ok c
  | .receive space frames times =>
      if c.canRead space then c.receive o space frames times else .ok c
  | .lossTimer space now =>
      if c.conn.outstandings.packets.any (isOutstanding space) then
        c.onConn (onLossTimer (controlHandlers o false) space now c.conn)
      else .ok c
  | .zeroRttRejected => c.onConn (markZeroRttPacketsLost (controlHandlers o false) c.conn)
  | .tune lossState transportSettings =>
      .ok { c with conn.lossState := lossState, conn.transportSettings := transportSettings }

end ServerSend

/-! ### Control events -/

section Control

variable {s t : ControlState ρ} {owed : List QuicSimpleFrame} {f : QuicSimpleFrame}

theorem ControlState.Balanced.hand_atMost (hb : s.Balanced owed) (f : QuicSimpleFrame)
    {g : QuicSimpleFrame} (hg : g.isPathChallenge = false) :
    (s.frames ++ [f]).count g + owed.count g + s.acked.count g ≤ (f :: s.handed).count g := by
  have hmost := hb.atMost g hg
  rw [List.count_append, List.count_singleton, List.count_cons]
  omega

theorem ControlState.Balanced.hand_lasting (hb : s.Balanced owed) (f : QuicSimpleFrame)
    {g : QuicSimpleFrame} (hg : s.Lasting g) :
    (f :: s.handed).count g ≤ (s.frames ++ [f]).count g + owed.count g + s.acked.count g := by
  have hleast := hb.lasting g hg
  rw [List.count_append, List.count_singleton, List.count_cons]
  omega

theorem ControlState.Balanced.hand (hb : s.Balanced owed) (hdone : f ≠ .handshakeDone)
    (hknown : ∀ streamId errorCode, f = .stopSending streamId errorCode →
      streamId ∈ s.openStreams) : (s.sendSimpleFrame f).Balanced owed where
  atMost _ hg := hb.hand_atMost f hg
  lasting _ hg := hb.hand_lasting f hg
  once := by
    change (f :: s.handed).count .handshakeDone ≤ _
    rw [List.count_cons_of_ne hdone]
    exact hb.once
  confirmed := hb.confirmed
  known streamId errorCode hmem := by
    rcases List.mem_cons.mp hmem with hf | hmem
    · exact .inl (hknown streamId errorCode hf.symm)
    · exact hb.known streamId errorCode hmem

theorem ControlState.Balanced.handDone (hb : s.Balanced owed)
    (hsent : ¬ s.sentHandshakeDone = true) :
    ControlState.Balanced
      { s.sendSimpleFrame .handshakeDone with sentHandshakeDone := true } owed where
  atMost _ hg := hb.hand_atMost .handshakeDone hg
  lasting _ hg := hb.hand_lasting .handshakeDone hg
  once := by
    have honce := hb.once
    rw [if_neg hsent] at honce
    change (QuicSimpleFrame.handshakeDone :: s.handed).count .handshakeDone ≤ 1
    rw [List.count_cons_self]
    omega
  confirmed := hb.confirmed
  known streamId errorCode hmem := by
    rcases List.mem_cons.mp hmem with hf | hmem
    · cases hf
    · exact hb.known streamId errorCode hmem

theorem ControlState.Balanced.remove (hb : s.Balanced owed) (streamId : StreamId) :
    ControlState.Balanced { s with
      openStreams := s.openStreams.erase streamId
      closedStreams := insert streamId s.closedStreams } owed where
  atMost := hb.atMost
  lasting f hf := hb.lasting f (hf.before (Finset.subset_insert _ _))
  once := hb.once
  confirmed := hb.confirmed
  known id errorCode hmem := by
    by_cases hid : id = streamId
    · exact .inr (hid ▸ Finset.mem_insert_self _ _)
    · exact (hb.known id errorCode hmem).imp (Finset.mem_erase_of_ne_of_mem hid)
        Finset.mem_insert_of_mem

theorem ControlState.mayHand_spec (hf : s.mayHand f = true) :
    f ≠ .handshakeDone ∧ ∀ streamId errorCode, f = .stopSending streamId errorCode →
      streamId ∈ s.openStreams := by
  refine ⟨?_, ?_⟩
  · rintro rfl
    cases hf
  · rintro streamId errorCode rfl
    exact of_decide_eq_true hf

theorem ControlState.step_ends (s : ControlState ρ) (e : ControlEvent ρ ε) :
    Ends ControlFailure.Permitted (s.step e)
      (fun t => s.Later t ∧ ∀ owed, s.Balanced owed → t.Balanced owed) := by
  cases e with
  | sendSimpleFrame frame =>
    refine .ok ?_
    by_cases hf : s.mayHand frame = true
    · rw [if_pos hf]
      obtain ⟨hdone, hknown⟩ := s.mayHand_spec hf
      exact ⟨.of_eq rfl rfl rfl, fun owed hb => hb.hand hdone hknown⟩
    · rw [if_neg hf]
      exact ⟨.refl s, fun owed hb => hb⟩
  | openStream streamId =>
    refine .ok ?_
    by_cases hclosed : streamId ∈ s.closedStreams
    · rw [if_pos hclosed]
      exact ⟨.refl s, fun owed hb => hb⟩
    · rw [if_neg hclosed]
      refine ⟨.of_eq rfl rfl rfl, fun owed hb => ?_⟩
      refine ⟨hb.atMost, hb.lasting, hb.once, hb.confirmed, fun id errorCode hmem => ?_⟩
      exact (hb.known id errorCode hmem).imp_left Finset.mem_insert_of_mem
  | removeStream streamId =>
    exact .ok ⟨⟨Finset.subset_insert _ _, rfl, rfl⟩, fun owed hb => hb.remove streamId⟩
  | path pathChallenge outstandingPathValidation =>
    exact .ok ⟨.of_eq rfl rfl rfl, fun owed hb =>
      ⟨hb.atMost, hb.lasting, hb.once, hb.confirmed, hb.known⟩⟩
  | other g =>
    refine (onOther_eq s g).imp fun t ht => ?_
    obtain ⟨other, rfl⟩ := ht
    exact ⟨.of_eq rfl rfl rfl, fun owed hb =>
      ⟨hb.atMost, hb.lasting, hb.once, hb.confirmed, hb.known⟩⟩

end Control

/-! ### The invariant -/

namespace ServerSend

variable {o : OtherFrames ρ ε} {c : ServerSend ρ} {conn conn' : SendConn (ControlState ρ)}
  {space : PacketNumberSpace} {times : AckTimes}

/-- A packet number space has its ack state, or nothing is sent or received in it. -/
structure Inv (o : OtherFrames ρ ε) (c : ServerSend ρ) : Prop where
  inv : (controlFrames o false).Inv c.conn
  spaces : ∀ s, (c.conn.ackStates.get s).isSome = true ∨
    c.canRead s = false ∧ c.canWrite s = false ∧
      ∀ p ∈ c.conn.outstandings.packets, p.packetNumberSpace ≠ s
  unconfirmed : c.conn.rest.confirmations = 0 → ∀ s, (c.conn.ackStates.get s).isSome = true
  keys : c.conn.rest.sentHandshakeDone = true → c.handshakeKeys = true

/-- The checks that are not excluded here. -/
def OnlyDsr (which : SendCheck) : Prop := which = .dsrPacket

theorem Inv.balanced (hc : c.Inv o) : ∃ owed, c.conn.rest.Balanced owed :=
  ⟨_, hc.inv.scanned.upholds.holds⟩

/-- The connection makes a step. -/
theorem Inv.onConn {New : PacketNumberSpace → Prop} (hc : c.Inv o)
    (hinv : (controlFrames o false).Inv conn) (hlater : c.conn.rest.Later conn.rest)
    (hcont : c.conn.Continues conn New) (hnew : ∀ s, New s → c.canWrite s = true) :
    Inv o { c with conn } where
  inv := hinv
  spaces s := by
    rcases hc.spaces s with hstate | ⟨hread, hwrite, hnone⟩
    · exact .inl ((hcont.states s).trans hstate)
    · refine .inr ⟨hread, hwrite, fun p hp hspace => ?_⟩
      rcases hcont.spaces p hp with hfresh | ⟨q, hq, hqspace⟩
      · have hcan := hnew _ hfresh
        rw [hspace, hwrite] at hcan
        cases hcan
      · exact hnone q hq (hqspace.trans hspace)
  unconfirmed hzero s :=
    (hcont.states s).trans (hc.unconfirmed (hlater.confirmations ▸ hzero) s)
  keys hsent := hc.keys (hlater.sentHandshakeDone ▸ hsent)

theorem Inv.state_of_canWrite (hc : c.Inv o) (hwrite : c.canWrite space = true) :
    (c.conn.ackStates.get space).isSome = true := by
  rcases hc.spaces space with hstate | ⟨-, hno, -⟩
  · exact hstate
  · rw [hno] at hwrite
    cases hwrite

theorem Inv.state_of_canRead (hc : c.Inv o) (hread : c.canRead space = true) :
    (c.conn.ackStates.get space).isSome = true := by
  rcases hc.spaces space with hstate | ⟨hno, -, -⟩
  · exact hstate
  · rw [hno] at hread
    cases hread

/-- The contract does not depend on the visitor. -/
theorem inv_implicit (implicit implicit' : Bool) (hc : (controlFrames o implicit).Inv conn) :
    (controlFrames o implicit').Inv conn :=
  ⟨⟨⟨hc.scanned.upholds.tally, hc.scanned.upholds.nodup, hc.scanned.upholds.copies,
    hc.scanned.upholds.holds⟩, hc.scanned.dsr⟩, hc.numbered, hc.sorted, hc.keyed⟩

/-- An ack frame, with either visitor. -/
theorem processAckFrame_ends {implicit : Bool} {frame : ReadAckFrame}
    (hc : (controlFrames o implicit).Inv conn)
    (hstate : (conn.ackStates.get space).isSome = true) :
    Ends (Allowed OnlyDsr ControlFailure.Permitted)
      (processAckFrame (controlHandlers o implicit) space frame times conn)
      (fun r => (controlFrames o implicit).AfterAck conn space frame times r.1 r.2) := by
  have hspurious : (controlFrames o implicit).SpuriousMet space frame conn :=
    fun _ => .of_forall (fun _ _ => trivial) _ _
  exact hc.processAckFrame hspurious (.inl rfl) (.inr hstate)

/-- The implicit ack covers the space, so nothing is left in it. -/
theorem implicitAckCryptoStream_ends (hc : (controlFrames o false).Inv conn)
    (hstate : (conn.ackStates.get space).isSome = true) :
    Ends (Allowed OnlyDsr ControlFailure.Permitted)
      (implicitAckCryptoStream o space times conn)
      (fun conn' => (controlFrames o false).Inv conn' ∧ conn.rest.Later conn'.rest ∧
        conn.Continues conn' (fun _ => False) ∧
        ∀ p ∈ conn'.outstandings.packets, p.packetNumberSpace ≠ space) := by
  unfold implicitAckCryptoStream
  refine (getAckState_ends (.inr hstate)).bind fun a _ => ?_
  cases hnums : (conn.outstandings.packets.filter (own space)).map (·.packetNum) with
  | nil =>
    refine .ok ⟨hc, .refl _, ⟨fun s => rfl, fun p hp => .inr ⟨p, hp, rfl⟩⟩, fun p hp hspace => ?_⟩
    have hnone := List.map_eq_nil_iff.mp hnums
    have hmem : p ∈ conn.outstandings.packets.filter (own space) :=
      List.mem_filter.mpr ⟨hp, by simpa [own] using hspace⟩
    rw [hnone] at hmem
    cases hmem
  | cons first others =>
    refine (processAckFrame_ends (inv_implicit false true hc) hstate).bind fun r hr => ?_
    have hgone : ∀ p ∈ r.1.outstandings.packets, p.packetNumberSpace ≠ space := by
      intro p hp hspace
      obtain ⟨q, hq, hnot, hmark⟩ := hr.remains hp
      have hqspace : q.packetNumberSpace = space :=
        (congrArg (·.packetNumberSpace) hmark).trans hspace
      have hacked := acks_implicitAck hnums hq hqspace
      rw [hnot] at hacked
      cases hacked
    refine (ends_liftHandler (onOther_eq r.1.rest _)).bind fun t ht => .ok ?_
    obtain ⟨other, rfl⟩ := ht
    have hinv := inv_implicit true false hr.inv
    refine ⟨hinv.withRest (fun a b hab => hab) fun cs hb => ?_,
      hr.later.trans (.of_eq rfl rfl rfl), ⟨hr.continues.states, hr.continues.spaces⟩, hgone⟩
    exact ⟨hb.atMost, hb.lasting, hb.once, hb.confirmed, hb.known⟩

theorem Inv.receiveFrame (hc : c.Inv o) (hread : c.canRead space = true)
    (frame : ReceivedFrame ρ ε) :
    Ends (Allowed OnlyDsr ControlFailure.Permitted) (receiveFrame o space c.conn frame)
      (fun conn => Inv o { c with conn }) := by
  cases frame with
  | ack frame times =>
    refine (processAckFrame_ends hc.inv (hc.state_of_canRead hread)).bind fun r hr => .ok ?_
    exact hc.onConn hr.inv hr.later hr.continues fun _ => False.elim
  | control e =>
    refine (ends_liftHandler (c.conn.rest.step_ends e)).bind fun t ht => .ok ?_
    refine hc.onConn (hc.inv.withRest (fun a b hab => ?_) fun cs hb => ht.2 _ hb) ht.1
      ⟨fun s => rfl, fun p hp => .inr ⟨p, hp, rfl⟩⟩ fun s hs => False.elim hs
    exact (controlFrames o false).copy_later hab ht.1

/-- The handshake is confirmed for the first time, since `HANDSHAKE_DONE` is handed over
once. -/
theorem Inv.first_confirmation (hc : c.Inv o)
    (hflag : c.conn.rest.handshakeConfirmedThisLoop = true) : c.conn.rest.confirmations = 0 := by
  obtain ⟨owed, hb⟩ := hc.balanced
  have hconfirmed := hb.confirmed
  have hmost := hb.atMost .handshakeDone rfl
  have honce := hb.once
  rw [hflag, if_pos rfl] at hconfirmed
  split at honce <;> omega

theorem Inv.unsent (hc : c.Inv o) (hsent : c.conn.rest.sentHandshakeDone = false) :
    c.conn.rest.confirmations = 0 := by
  obtain ⟨owed, hb⟩ := hc.balanced
  have hconfirmed := hb.confirmed
  have hmost := hb.atMost .handshakeDone rfl
  have honce := hb.once
  rw [hsent, if_neg Bool.false_ne_true] at honce
  omega

/-- The state in which `handshakeConfirmed` begins. -/
theorem Inv.begin_confirmation (hc : c.Inv o)
    (hflag : c.conn.rest.handshakeConfirmedThisLoop = true) :
    (controlFrames o false).Inv { c.conn with
      rest := { c.conn.rest with
        handshakeConfirmedThisLoop := false
        confirmations := c.conn.rest.confirmations + 1 } } := by
  refine hc.inv.withRest (fun a b hab => hab) fun cs hb => ?_
  refine ⟨hb.atMost, hb.lasting, hb.once, ?_, hb.known⟩
  have hconfirmed := hb.confirmed
  rw [hflag, if_pos rfl] at hconfirmed
  exact hconfirmed

theorem inv_reset (hc : (controlFrames o false).Inv conn)
    (space : PacketNumberSpace) :
    (controlFrames o false).Inv { conn with ackStates := conn.ackStates.reset space } :=
  ⟨hc.scanned, hc.numbered.reset space, hc.sorted, hc.keyed⟩

theorem Inv.handshakeConfirmed (hc : c.Inv o)
    (hflag : c.conn.rest.handshakeConfirmedThisLoop = true) :
    Ends (Allowed OnlyDsr ControlFailure.Permitted) (handshakeConfirmed o times c)
      (fun c' => Inv o c' ∧ c'.initialWriteCipher = false) := by
  have hzero := hc.first_confirmation hflag
  have hstates := hc.unconfirmed hzero
  unfold MasqueQuic.handshakeConfirmed
  refine (implicitAckCryptoStream_ends (hc.begin_confirmation hflag)
    (hstates .initial)).bind fun conn₁ h₁ => ?_
  obtain ⟨hinv₁, hlater₁, hcont₁, hnone₁⟩ := h₁
  have hstate : ((conn₁.ackStates.reset .initial).get .handshake).isSome = true :=
    (hcont₁.states .handshake).trans (hstates .handshake)
  refine (implicitAckCryptoStream_ends (inv_reset hinv₁ .initial) hstate).bind
    fun conn₂ h₂ => .ok ⟨?_, rfl⟩
  obtain ⟨hinv₂, hlater₂, hcont₂, hnone₂⟩ := h₂
  have hlater := hlater₁.trans hlater₂
  refine ⟨inv_reset hinv₂ .handshake, fun s => ?_, fun hzero' => ?_, fun hsent => ?_⟩
  · cases s with
    | initial =>
      refine .inr ⟨rfl, rfl, fun p hp hspace => ?_⟩
      rcases hcont₂.spaces p hp with hfalse | ⟨q, hq, hqspace⟩
      · exact hfalse
      · exact hnone₁ q hq (hqspace.trans hspace)
    | handshake => exact .inr ⟨rfl, rfl, hnone₂⟩
    | appData => exact .inl rfl
  · have hcount : conn₂.rest.confirmations = c.conn.rest.confirmations + 1 := hlater.confirmations
    change conn₂.rest.confirmations = 0 at hzero'
    omega
  · exact hc.keys (hlater.sentHandshakeDone.symm.trans hsent)

theorem Inv.receive (hc : c.Inv o) (hread : c.canRead space = true)
    (frames : List (ReceivedFrame ρ ε)) :
    Ends (Allowed OnlyDsr ControlFailure.Permitted) (c.receive o space frames times) (Inv o) := by
  unfold ServerSend.receive
  refine (getAckState_ends (.inr (hc.state_of_canRead hread))).bind fun a _ => ?_
  have hstart : Inv o { c with conn := { c.conn with
      rest := { c.conn.rest with handshakeConfirmedThisLoop := false } } } := by
    refine hc.onConn (hc.inv.withRest (fun a b hab => hab) fun cs hb => ?_) (.of_eq rfl rfl rfl)
      ⟨fun s => rfl, fun p hp => .inr ⟨p, hp, rfl⟩⟩ fun s hs => False.elim hs
    refine ⟨hb.atMost, hb.lasting, hb.once, ?_, hb.known⟩
    exact (Nat.le_add_right _ _).trans hb.confirmed
  have hloop : Ends (Allowed OnlyDsr ControlFailure.Permitted)
      (frames.foldlM (MasqueQuic.receiveFrame o space)
        { c.conn with rest := { c.conn.rest with handshakeConfirmedThisLoop := false } })
      (fun conn => Inv o { c with conn }) :=
    Ends.foldlM (I := fun conn _ => Inv o { c with conn })
      (fun conn frame _ hconn => hconn.receiveFrame hread frame) hstart
  refine hloop.bind fun conn hconn => ?_
  have hconfirm : Ends (Allowed OnlyDsr ControlFailure.Permitted)
      (if conn.rest.handshakeConfirmedThisLoop then
        MasqueQuic.handshakeConfirmed o times { c with conn } else .ok { c with conn })
      (Inv o) :=
    Ends.ite (fun hflag => (hconn.handshakeConfirmed hflag).imp fun c' hc' => hc'.1)
      fun _ => .ok hconn
  refine hconfirm.bind fun c' hc' => ?_
  refine Ends.ite (fun hinitial => ?_) fun _ => .ok hc'
  have hstate : (c'.conn.ackStates.get .initial).isSome = true :=
    hc'.state_of_canWrite hinitial.2
  refine (implicitAckCryptoStream_ends hc'.inv hstate).bind fun conn' h' => .ok ?_
  obtain ⟨hinv, hlater, hcont, hnone⟩ := h'
  have hnext := hc'.onConn hinv hlater hcont fun s hs => False.elim hs
  refine ⟨hnext.inv, fun s => ?_, hnext.unconfirmed, hnext.keys⟩
  rcases hnext.spaces s with hstate | ⟨hread', hwrite', hnone'⟩
  · exact .inl hstate
  · cases s with
    | initial => exact .inr ⟨rfl, rfl, hnone⟩
    | handshake => exact .inr ⟨hread', hwrite', hnone'⟩
    | appData => exact .inr ⟨hread', hwrite', hnone'⟩

theorem simpleFrames_of_untracked {packet : RegularQuicWritePacket}
    (h : ¬ packet.tracked = true) : packet.simpleFrames = [] := by
  rw [List.eq_nil_iff_forall_not_mem]
  intro f hf
  obtain ⟨frame, hframe, hsimple⟩ := List.mem_filterMap.mp hf
  cases frame with
  | simple g => exact h (List.any_eq_true.mpr ⟨_, hframe, rfl⟩)
  | _ => cases hsimple

/-- A new packet is sent with pending control frames. -/
theorem Inv.send {packet : RegularQuicWritePacket} {sentTime : Nat} {isDSRPacket : Bool}
    (hc : c.Inv o) (hwrite : c.canWrite packet.packetNumberSpace = true)
    (hkey : isDSRPacket = true → packet.protectionType ≠ .zeroRtt)
    (hs : c.conn.rest.Schedules packet) :
    Ends (Allowed OnlyDsr ControlFailure.Permitted)
      (c.onConn (updateConnection (controlHandlers o false) c.conn none packet sentTime
        isDSRPacket)) (Inv o) := by
  refine Ends.bind (hc.inv.send (.inr (hc.state_of_canWrite hwrite)) hkey fun a cs _ hb => ?_)
    fun conn hconn => .ok (hc.onConn hconn.1 hconn.2.1 hconn.2.2 fun s hs => hs ▸ hwrite)
  refine (hb.packetSent (p := packet.outstanding a.nextPacketNum sentTime isDSRPacket none) rfl
    hs).imp fun t ht => ⟨ht.2, ?_⟩
  obtain ⟨ht, -⟩ := ht
  by_cases htracked : packet.tracked = true
  · rw [if_pos htracked]
    exact ht
  · rw [if_neg htracked]
    change t.Balanced (packet.simpleFrames ++ owedBy cs) at ht
    rwa [simpleFrames_of_untracked htracked] at ht

/-- A frame of a packet that is not lost and not processed is owed. -/
theorem owed_of_cloned {p : OutstandingPacket} {r : PacketEvent × OutstandingsInfo}
    (hcl : (controlFrames o false).Cloned conn p r) {f : QuicSimpleFrame}
    (hf : f.isPathChallenge = false) (hmem : f ∈ p.sent.simpleFrames) :
    f ∈ owedBy ((r.2.packets.filter r.2.carries).map (·.sent)) := by
  obtain ⟨q, hq, hlost, hassoc, hown⟩ := hcl.inv.scanned.upholds.tally.carried r.1 hcl.live
  have hcopy := (hcl.copy q hq hlost hassoc hown).1 f hf
  have hcarries : r.2.carries q = true := by
    have hlive := hcl.live
    simp [OutstandingsCounters.carries, hlost, hassoc, hown, hlive]
  have hfq : f ∈ q.sent.simpleFrames := by
    have hpos := List.count_pos_iff.mpr hmem
    exact List.count_pos_iff.mp (hpos.trans_le hcopy)
  exact List.mem_flatMap.mpr
    ⟨q.sent, List.mem_map_of_mem (List.mem_filter.mpr ⟨hq, hcarries⟩), hfq⟩

theorem Inv.clone {index : Nat} {packet : RegularQuicWritePacket} {sentTime : Option Nat}
    (hc : c.Inv o) (hwrite : c.canWrite packet.packetNumberSpace = true)
    (hr : ∀ p, c.conn.outstandings.packets[index]? = some p → c.conn.rest.Rebuilds p packet) :
    Ends (Allowed OnlyDsr ControlFailure.Permitted)
      (c.onConn (clonePacket (controlHandlers o false) c.conn index packet sentTime)) (Inv o) := by
  refine Ends.bind (hc.inv.clonePacket (.inr (hc.state_of_canWrite hwrite)) ?_ ?_)
    fun conn hconn => .ok (hc.onConn hconn.1 hconn.2.1 hconn.2.2 fun s hs => hs ▸ hwrite)
  · intro p r hp hcl _ _
    exact (hr p hp).copies hcl.inv.scanned.upholds.holds fun f hf hmem => owed_of_cloned hcl hf hmem
  · intro p r packetNum sentTime _ hcl _
    have hb : c.conn.rest.Balanced _ := hcl.inv.scanned.upholds.holds
    exact (hb.cloneSent rfl).imp fun t ht => ⟨ht.2, ht.1⟩

/-- One step of the connection. -/
theorem Inv.step (hc : c.Inv o) (e : ServerEvent ρ ε) :
    Ends (Allowed OnlyDsr ControlFailure.Permitted) (c.step o e) (Inv o) := by
  cases e with
  | control e =>
    rw [ServerSend.step]
    have hread : c.canRead .appData = true := rfl
    exact (hc.receiveFrame hread (.control e)).bind fun conn hconn => .ok hconn
  | installHandshakeKeys =>
    rw [ServerSend.step]
    refine .ok ?_
    by_cases hkeys : c.handshakeKeys = true
    · rw [if_pos hkeys]
      exact hc
    · rw [if_neg hkeys]
      have hsent : c.conn.rest.sentHandshakeDone = false := by
        by_contra hsent
        exact hkeys (hc.keys (eq_true_of_ne_false hsent))
      have hstates := hc.unconfirmed (hc.unsent hsent)
      exact ⟨hc.inv, fun s => .inl (hstates s), hc.unconfirmed, fun _ => rfl⟩
  | updateHandshakeState =>
    rw [ServerSend.step]
    refine .ok ?_
    by_cases hdone : c.handshakeKeys = true ∧ ¬ c.conn.rest.sentHandshakeDone = true
    · rw [if_pos hdone]
      refine ⟨?_, hc.spaces, hc.unconfirmed, fun _ => hdone.1⟩
      exact hc.inv.withRest (fun a b hab => hab) fun cs hb => hb.handDone hdone.2
    · rw [if_neg hdone]
      exact hc
  | send packet sentTime =>
    rw [ServerSend.step]
    exact Ends.ite (fun hs => hc.send hs.1 nofun hs.2) fun _ => .ok hc
  | sendDsr frames sentTime =>
    rw [ServerSend.step]
    refine Ends.ite (fun hnone => ?_) fun _ => .ok hc
    have hs : c.conn.rest.Schedules ⟨.keyPhaseZero, frames⟩ := by
      change simpleFrames frames <+: _
      rw [hnone]
      exact List.nil_prefix
    exact hc.send rfl (fun _ => nofun) hs
  | clone index packet sentTime =>
    rw [ServerSend.step]
    refine Ends.ite (fun hs => hc.clone hs.1 fun p hp => ?_) fun _ => .ok hc
    have hall := hs.2
    rw [hp] at hall
    exact of_decide_eq_true hall
  | receive space frames times =>
    rw [ServerSend.step]
    exact Ends.ite (fun hread => hc.receive hread frames) fun _ => .ok hc
  | lossTimer space now =>
    rw [ServerSend.step]
    refine Ends.ite (fun hany => ?_) fun _ => .ok hc
    obtain ⟨p, hp, hout⟩ := List.any_eq_true.mp hany
    have hstate : (c.conn.ackStates.get space).isSome = true := by
      rcases hc.spaces space with hstate | ⟨-, -, hnone⟩
      · exact hstate
      · simp only [isOutstanding, Bool.and_eq_true, beq_iff_eq] at hout
        exact absurd hout.2 (hnone p hp)
    exact Ends.bind (hc.inv.onLossTimer now (.inl rfl) (.inr hstate)) fun conn hconn =>
      .ok (hc.onConn hconn.1 hconn.2.1 hconn.2.2 fun _ => False.elim)
  | zeroRttRejected =>
    rw [ServerSend.step]
    exact hc.inv.markZeroRttPacketsLost.bind fun conn hconn =>
      .ok (hc.onConn hconn.1 hconn.2.1 hconn.2.2 fun _ => False.elim)
  | tune lossState transportSettings =>
    rw [ServerSend.step]
    exact .ok ⟨⟨hc.inv.scanned, hc.inv.numbered, hc.inv.sorted, hc.inv.keyed⟩, hc.spaces,
      hc.unconfirmed, hc.keys⟩

end ServerSend

/-- A server connection that has received its first packet. -/
def ServerSend.start (initial handshake appData : AckState) (lossState : LossState)
    (transportSettings : TransportSettings) (other : ρ) : ServerSend ρ where
  conn := {
    outstandings := .empty
    ackStates := ⟨some initial, some handshake, appData⟩
    lossState
    transportSettings
    rest := {
      frames := []
      pathChallenge := none
      outstandingPathValidation := none
      openStreams := ∅
      closedStreams := ∅
      sentHandshakeDone := false
      handshakeConfirmedThisLoop := false
      handed := []
      acked := []
      confirmations := 0
      other } }
  initialReadCipher := true
  initialWriteCipher := true
  handshakeReadCipher := false
  handshakeWriteCipher := false
  handshakeKeys := false

theorem ServerSend.Inv.start (o : OtherFrames ρ ε) (initial handshake appData : AckState)
    (lossState : LossState) (transportSettings : TransportSettings) (other : ρ) :
    Inv o (.start initial handshake appData lossState transportSettings other) := by
  have hstates : ∀ s, ((ServerSend.start initial handshake appData lossState transportSettings
      other).conn.ackStates.get s).isSome = true := by
    intro s
    cases s <;> rfl
  refine ⟨.new rfl ?_, fun s => .inl (hstates s), fun _ => hstates, fun hsent => nomatch hsent⟩
  exact ⟨fun f _ => le_rfl, fun f _ => le_rfl, le_rfl, le_rfl, fun _ _ hmem => nomatch hmem⟩

end MasqueQuic
