/-
Packets within the writable bytes.

`congestionControlWritableBytes` and `probePacketWritableBytes` (`quic/api/QuicTransportFunctions.cpp`)
say how much a packet may hold. The main result of this file, `scheduleFramesForPacket_acks`: when nothing
may be written, a packet holds ACK and PADDING frames only.
-/

import MasqueQuic.Quic.FrameScheduling

namespace MasqueQuic

open WireField (int)

/-! ### Limits -/

/-- A limit on what is sent is given as `none` while there is none. -/
structure WriteLimits where
  udpSendPacketLen : Nat
  /-- `getWritableBytes` of the congestion controller. -/
  controllerWritableBytes : Option Nat
  writableBytesLimit : Option Nat
  totalBytesSent : Nat
  /-- `currentCredit` of the limiter, while a path is being validated. -/
  pathValidationCredit : Option Nat
  udpSendPacketLen_pos : 0 < udpSendPacketLen

namespace WriteLimits

def unlimitedWritableBytes : Nat := 2 ^ 64 - 1

/-- Up to the nearest multiple of `udpSendPacketLen`. -/
def roundUp (l : WriteLimits) (writableBytes : Nat) : Nat :=
  (writableBytes + l.udpSendPacketLen - 1) / l.udpSendPacketLen * l.udpSendPacketLen

def maybeUnvalidatedClientWritableBytes (l : WriteLimits) : Nat :=
  match l.writableBytesLimit with
  | none => unlimitedWritableBytes
  | some limit =>
      if limit ≤ l.totalBytesSent then 0 else l.roundUp (limit - l.totalBytesSent)

def probePacketWritableBytes (l : WriteLimits) : Nat := l.maybeUnvalidatedClientWritableBytes

/-- The two limits on an address that is not validated exclude each other (`CHECK`). -/
def addressWritableBytes (l : WriteLimits) : Nat :=
  match l.pathValidationCredit with
  | some credit => credit
  | none => l.maybeUnvalidatedClientWritableBytes

def congestionControlWritableBytes (l : WriteLimits) : Nat :=
  let writableBytes :=
    match l.controllerWritableBytes with
    | none => l.addressWritableBytes
    | some bytes => min l.addressWritableBytes bytes
  if writableBytes = unlimitedWritableBytes then writableBytes else l.roundUp writableBytes

/-- What `writeConnectionDataToSocket` lets a packet hold. -/
def packetBytes (l : WriteLimits) (cipherOverhead writableBytes : Nat) : Nat :=
  min l.udpSendPacketLen writableBytes - cipherOverhead

theorem roundUp_zero (l : WriteLimits) : l.roundUp 0 = 0 := by
  unfold roundUp
  rw [Nat.zero_add, Nat.div_eq_of_lt (Nat.sub_lt l.udpSendPacketLen_pos Nat.one_pos), Nat.zero_mul]

/-- Nothing may be written when the controller allows nothing. -/
theorem congestionControlWritableBytes_of_controller {l : WriteLimits}
    (h : l.controllerWritableBytes = some 0) : l.congestionControlWritableBytes = 0 := by
  unfold congestionControlWritableBytes
  rw [h]
  simp [roundUp_zero l, unlimitedWritableBytes]

/-- Nothing may be written when the limit has been reached. -/
theorem maybeUnvalidatedClientWritableBytes_of_limit {l : WriteLimits} {limit : Nat}
    (h : l.writableBytesLimit = some limit) (hreached : limit ≤ l.totalBytesSent) :
    l.maybeUnvalidatedClientWritableBytes = 0 := by
  unfold maybeUnvalidatedClientWritableBytes
  rw [h]
  exact if_pos hreached

/-- Past its limit an address that is not validated gets nothing, whatever the controller grants. -/
theorem congestionControlWritableBytes_of_limit {l : WriteLimits} {limit : Nat}
    (hpath : l.pathValidationCredit = none)
    (h : l.writableBytesLimit = some limit) (hreached : limit ≤ l.totalBytesSent) :
    l.congestionControlWritableBytes = 0 := by
  have hzero : l.addressWritableBytes = 0 := by
    unfold addressWritableBytes
    rw [hpath]
    exact maybeUnvalidatedClientWritableBytes_of_limit h hreached
  unfold congestionControlWritableBytes
  rw [hzero]
  cases l.controllerWritableBytes with
  | none => simp [roundUp_zero l, unlimitedWritableBytes]
  | some bytes => simp [roundUp_zero l, unlimitedWritableBytes]

theorem packetBytes_zero (l : WriteLimits) (cipherOverhead : Nat) :
    l.packetBytes cipherOverhead 0 = 0 := by
  unfold packetBytes
  rw [Nat.min_zero, Nat.zero_sub]

end WriteLimits

/-! ### Through the wrapper -/

/-- What a scheduler that writes through the wrapper leaves of a packet. -/
structure Through (p p' : FrameSpace) : Prop where
  diff : p'.diff = p.diff
  protectionType : p'.protectionType = p.protectionType
  remainingBytes : p'.remainingBytes ≤ p.remainingBytes
  frames : p.frames <+: p'.frames
  closed : p.remainingSpaceInPkt = 0 → p' = p

namespace Through

variable {p p' p'' : FrameSpace} {c : SchedulingConn}

/-- To write nothing is to write through the wrapper. -/
theorem refl (p : FrameSpace) : Through p p where
  diff := rfl
  protectionType := rfl
  remainingBytes := Nat.le_refl _
  frames := List.prefix_refl _
  closed _ := rfl

theorem trans (h : Through p p') (h' : Through p' p'') : Through p p'' where
  diff := h'.diff.trans h.diff
  protectionType := h'.protectionType.trans h.protectionType
  remainingBytes := h'.remainingBytes.trans h.remainingBytes
  frames := h.frames.trans h'.frames
  closed hzero := by
    have hsame := h.closed hzero
    rw [← hsame] at hzero
    exact (h'.closed hzero).trans hsame

theorem ite {b : Prop} [Decidable b] {q : FrameSpace} (h : Through p q) :
    Through p (if b then q else p) := by
  split
  · exact h
  · exact .refl p

/-- A scheduler that is asked on a condition. -/
theorem when {f : FrameSpace → FrameSpace} (h : Through p p') (b : Bool)
    (hf : ∀ q, Through q (f q)) : Through p (p'.when b f) := h.trans (ite (hf p'))

/-- A frame that takes space. -/
theorem append (frame : QuicWriteFrame) {size : Nat} (hspace : p.remainingSpaceInPkt ≠ 0) :
    Through p (p.append frame size) where
  diff := rfl
  protectionType := rfl
  remainingBytes := Nat.sub_le _ _
  frames := List.prefix_append _ _
  closed hzero := absurd hzero hspace

end Through

theorem intSize_pos {n : Nat} (h : n < 2 ^ 62) : 0 < intSize n := by
  unfold intSize getQuicIntegerSize kOneByteLimit kTwoByteLimit kFourByteLimit kEightByteLimit
  split_ifs with h1 h2 h3 h4
  · exact Nat.one_pos
  · exact Nat.two_pos
  · exact Nat.succ_pos 3
  · exact Nat.succ_pos 7
  · omega

/-- A frame takes at least the byte of its type, so that a closed packet has no room for it. -/
theorem fieldsLength_pos {n : Nat} (h : n < 2 ^ 62) (fields : List WireField) :
    0 < fieldsLength (int n :: fields) := by
  unfold fieldsLength
  rw [List.map_cons, List.sum_cons]
  exact Nat.add_pos_left (intSize_pos h) _

theorem simpleFrameFields_pos (frame : QuicSimpleFrame) :
    0 < fieldsLength (simpleFrameFields frame) := by
  cases frame with
  | maxStreams maxStreams isForBidirectionalStream =>
    refine fieldsLength_pos ?_ _
    split <;> decide
  | _ => exact fieldsLength_pos (by decide) _

namespace Through

variable {p p' p'' : FrameSpace} {c : SchedulingConn}

/-- One frame is written whole or not at all. -/
theorem writeFrame (frame : QuicWriteFrame) {fields : List WireField}
    (hpos : 0 < fieldsLength fields) : Through p (p.writeFrame frame fields).2 := by
  unfold FrameSpace.writeFrame
  split
  · next hfits => exact .append frame (by omega)
  · exact .refl p

theorem writeFrames {frames : List (QuicWriteFrame × List WireField)}
    (hpos : ∀ frame ∈ frames, 0 < fieldsLength frame.2) : Through p (p.writeFrames frames).2 := by
  induction frames generalizing p with
  | nil => exact .refl p
  | cons head rest ih =>
    obtain ⟨hhead, hrest⟩ := List.forall_mem_cons.mp hpos
    unfold FrameSpace.writeFrames
    split
    · next hfits =>
        have hone : Through p (p.append head.1 (fieldsLength head.2)) := .append head.1 (by omega)
        exact hone.trans (ih hrest)
    · exact .refl p

theorem writeFrames_map {α : Type} (items : List α) {f : α → QuicWriteFrame × List WireField}
    (hpos : ∀ a, 0 < fieldsLength (f a).2) : Through p (p.writeFrames (items.map f)).2 := by
  refine writeFrames fun frame hframe => ?_
  obtain ⟨a, -, rfl⟩ := List.mem_map.mp hframe
  exact hpos a

theorem writeCryptoFrame (offset dataLength : Nat) :
    Through p (SchedulingConn.writeCryptoFrame offset dataLength p).2 := by
  unfold SchedulingConn.writeCryptoFrame
  dsimp only
  split
  · exact .refl p
  · next hspace =>
      split
      · exact .refl p
      · exact .append _ (by omega)

/-- Lost data goes first. Induction on the buffers that are lost. -/
theorem writeCryptoLoss (lost : List (Nat × Nat)) :
    Through p (SchedulingConn.writeCryptoLoss lost p).2.2 := by
  induction lost generalizing p with
  | nil => exact .refl p
  | cons buffer rest ih =>
    unfold SchedulingConn.writeCryptoLoss
    have hone := @writeCryptoFrame p buffer.1 buffer.2
    generalize SchedulingConn.writeCryptoFrame buffer.1 buffer.2 p = r at hone
    dsimp only
    split
    · exact hone.trans ih
    · exact hone

theorem writeCryptoData (s : CryptoBuffers) : Through p (SchedulingConn.writeCryptoData s p).2 := by
  unfold SchedulingConn.writeCryptoData
  have hlost := @writeCryptoLoss p s.lossBuffer
  generalize SchedulingConn.writeCryptoLoss s.lossBuffer p = r at hlost
  dsimp only
  split
  · exact hlost.trans (writeCryptoFrame _ _)
  · exact hlost

theorem writeRsts : Through p (c.writeRsts p).2 :=
  writeFrames_map c.resets fun _ => fieldsLength_pos (by decide) _

theorem writeWindowUpdates : Through p (c.writeWindowUpdates p) := by
  unfold SchedulingConn.writeWindowUpdates
  refine (ite (writeFrame _ (fieldsLength_pos (by decide) _))).trans (writeFrames ?_)
  intro frame hframe
  obtain ⟨id, -, hid⟩ := List.mem_filterMap.mp hframe
  obtain ⟨maximumData, -, rfl⟩ := Option.map_eq_some_iff.mp hid
  exact fieldsLength_pos (by decide) _

theorem writeBlockedFrames : Through p (c.writeBlockedFrames p) := by
  unfold SchedulingConn.writeBlockedFrames
  have hfirst : Through p (if c.sendDataBlocked then p.writeFrame
      (.dataBlocked c.peerAdvertisedMaxOffset) [int 0x14, int c.peerAdvertisedMaxOffset]
        else (true, p)).2 := by
    split
    · exact writeFrame _ (fieldsLength_pos (by decide) _)
    · exact .refl p
  generalize (if c.sendDataBlocked then p.writeFrame
      (.dataBlocked c.peerAdvertisedMaxOffset) [int 0x14, int c.peerAdvertisedMaxOffset]
        else (true, p)) = r at hfirst
  dsimp only
  split
  · exact hfirst.trans (writeFrames_map _ fun _ => fieldsLength_pos (by decide) _)
  · exact hfirst

theorem writeSimpleFrames : Through p (c.writeSimpleFrames p) := by
  unfold SchedulingConn.writeSimpleFrames
  cases c.pathChallenge with
  | none => exact writeFrames_map _ fun frame => simpleFrameFields_pos frame
  | some pathData =>
    have hfirst := @writeFrame p (.simple (.pathChallenge pathData)) _
      (simpleFrameFields_pos (.pathChallenge pathData))
    dsimp only
    generalize p.writeFrame (.simple (.pathChallenge pathData))
      (simpleFrameFields (.pathChallenge pathData)) = r at hfirst
    split
    · exact hfirst.trans (writeFrames_map _ fun frame => simpleFrameFields_pos frame)
    · exact hfirst

/-! ### Streams -/

theorem writeStreamFrame (s : WritingStream) (offset bufferLen flowControlLen : Nat) (fin : Bool) :
    Through p (SchedulingConn.writeStreamFrame s offset bufferLen flowControlLen fin p).2 := by
  unfold SchedulingConn.writeStreamFrame
  dsimp only
  split
  · exact .refl p
  · next hspace =>
      split
      · exact .append _ fun hzero => hspace (.inl hzero)
      · exact .refl p

theorem writeStreamLossBuffers (s : WritingStream) (lost : List LostBuffer) :
    Through p (SchedulingConn.writeStreamLossBuffers s lost p).2 := by
  induction lost generalizing p with
  | nil => exact .refl p
  | cons buffer rest ih =>
    unfold SchedulingConn.writeStreamLossBuffers
    have hone := @writeStreamFrame p s buffer.offset buffer.length buffer.length buffer.eof
    generalize SchedulingConn.writeStreamFrame s buffer.offset buffer.length buffer.length
      buffer.eof p = r at hone
    dsimp only
    split
    · exact hone.trans ih
    · exact hone

/-- Lost data of a stream, and then its new data. -/
theorem writeSingleStream (s : WritingStream) (connWritableBytes : Nat) :
    Through p (SchedulingConn.writeSingleStream s connWritableBytes p).2.2 := by
  unfold SchedulingConn.writeSingleStream
  have hlost := @writeStreamLossBuffers p s s.lossBuffer
  generalize SchedulingConn.writeStreamLossBuffers s s.lossBuffer p = r at hlost
  dsimp only
  split
  · exact hlost
  · split
    · have hdata : Through r.2 (SchedulingConn.writeStreamData s connWritableBytes r.2).2 :=
        writeStreamFrame _ _ _ _ _
      generalize SchedulingConn.writeStreamData s connWritableBytes r.2 = d at hdata
      obtain ⟨dataLen, q⟩ := d
      cases dataLen with
      | none => exact hlost.trans hdata
      | some dataLen => exact hlost.trans hdata
    · exact hlost

theorem writeLevel (streamPerPacket : Bool) (level : List WritingStream) (connWritableBytes : Nat) :
    Through p (SchedulingConn.writeLevel streamPerPacket level connWritableBytes p).2.2 := by
  induction level generalizing connWritableBytes p with
  | nil => exact .refl p
  | cons s rest ih =>
    unfold SchedulingConn.writeLevel
    have hone := @writeSingleStream p s connWritableBytes
    generalize SchedulingConn.writeSingleStream s connWritableBytes p = r at hone
    dsimp only
    split
    · exact hone
    · split
      · exact hone
      · exact hone.trans (ih _)

/-- The credit passes from level to level; nothing else but the packet does. -/
theorem writeLevels (streamPerPacket : Bool) (levels : List (List WritingStream))
    (connWritableBytes : Nat) :
    Through p (SchedulingConn.writeLevels streamPerPacket levels connWritableBytes p) := by
  induction levels generalizing connWritableBytes p with
  | nil => exact .refl p
  | cons level rest ih =>
    unfold SchedulingConn.writeLevels
    split
    · exact .refl p
    · have hone := @writeLevel p streamPerPacket level connWritableBytes
      generalize SchedulingConn.writeLevel streamPerPacket level connWritableBytes p = r at hone
      dsimp only
      split
      · exact hone
      · exact hone.trans (ih _)

theorem writeStreams : Through p (c.writeStreams p) := by
  unfold SchedulingConn.writeStreams
  exact (writeLevel _ _ _).trans (writeLevels _ _ _)

end Through

/-! ### Datagrams -/

/-- What the datagram scheduler leaves of a packet. -/
structure DatagramsThrough (w w' : DatagramWrite) : Prop where
  diff : w'.space.diff = w.space.diff
  remainingBytes : w'.space.remainingBytes ≤ w.space.remainingBytes
  closed : w.space.remainingSpaceInPkt = 0 → w' = w

theorem DatagramsThrough.refl (w : DatagramWrite) : DatagramsThrough w w :=
  ⟨rfl, Nat.le_refl _, fun _ => rfl⟩

theorem DatagramsThrough.trans {w w' w'' : DatagramWrite} (h : DatagramsThrough w w')
    (h' : DatagramsThrough w' w'') : DatagramsThrough w w'' where
  diff := h'.diff.trans h.diff
  remainingBytes := h'.remainingBytes.trans h.remainingBytes
  closed hzero := by
    have hsame := h.closed hzero
    rw [← hsame] at hzero
    exact (h'.closed hzero).trans hsame

/-- The first datagram is written as a whole, or waits. -/
theorem writeFront_through (w : DatagramWrite) :
    Ends (fun _ => True) (writeFront w) (DatagramsThrough w) := by
  cases hbuffer : w.writeBuffer with
  | nil =>
    unfold writeFront
    rw [hbuffer]
    exact .error trivial
  | cons payload rest =>
    have hlength := (datagramFrameLength_ends payload.chainLength).forget
    cases hframe : datagramFrameLength payload.chainLength with
    | error e =>
      unfold writeFront
      rw [hbuffer]
      dsimp only
      rw [hframe]
      exact .error trivial
    | ok length =>
      have hpos := hlength.of_ok hframe
      by_cases hfits : length ≤ w.space.remainingSpaceInPkt
      · rw [writeFront_eq hbuffer hframe hpos hfits]
        exact .ok ⟨rfl, Nat.sub_le _ _, fun hzero => by omega⟩
      · unfold writeFront
        rw [hbuffer]
        dsimp only
        rw [hframe, except_ok_bind, if_neg hfits]
        exact .ok (.refl w)

theorem writeDatagramLoop_through (framePerPacket : Bool) (rounds i : Nat) (w : DatagramWrite) :
    Ends (fun _ => True) (writeDatagramLoop framePerPacket rounds i w) (DatagramsThrough w) := by
  induction rounds generalizing i w with
  | zero => exact .ok (.refl w)
  | succ rounds ih =>
    rw [writeDatagramLoop]
    refine Ends.ite (fun _ => ?_) fun _ => .ok (.refl w)
    refine (writeFront_through w).bind fun w' hone => ?_
    refine Ends.ite (fun _ => .ok hone) fun _ => ?_
    exact (ih (i + 1) w').imp fun w'' hrest => hone.trans hrest

variable {c : SchedulingConn} {p : FrameSpace}

theorem Through.writeDatagrams : Through p (c.writeDatagrams p).1 := by
  unfold SchedulingConn.writeDatagrams
  cases hwrite : writeDatagramFrames c.framePerPacket p.toPacketSpace c.datagrams with
  | error e => exact .refl p
  | ok w =>
    have hthrough := (writeDatagramLoop_through _ _ _ _).of_ok hwrite
    refine ⟨hthrough.diff, rfl, hthrough.remainingBytes, List.prefix_append _ _, fun hzero => ?_⟩
    have hsame := hthrough.closed hzero
    dsimp only
    rw [hsame, List.map_nil, List.append_nil]

/-! ### Packets -/

/-- Frames that are sent whatever the limits are. -/
def QuicWriteFrame.IsAck (frame : QuicWriteFrame) : Prop := frame = .writeAck ∨ frame = .padding

namespace FrameScheduler

variable {f : FrameScheduler}

theorem scheduleRest_through : Through p (f.scheduleRest c p) := by
  have hone : ∀ q (frame : QuicWriteFrame) n, n < 2 ^ 62 →
      Through q (q.writeFrame frame [int n]).2 :=
    fun q frame n hn => .writeFrame frame (fieldsLength_pos hn [])
  unfold scheduleRest
  refine .when ?_ _ fun q => .writeDatagrams
  refine .when ?_ _ fun q => .writeStreams
  refine .when ?_ _ fun q => hone q .ping 0x01 (by decide)
  refine .when ?_ _ fun q => .writeSimpleFrames
  refine .when ?_ _ fun q => .writeBlockedFrames
  refine .when ?_ _ fun q => .writeWindowUpdates
  exact .when (.refl p) _ fun q => hone q .immediateAck 0xac (by decide)

/-- The packet is closed to everything but acks. -/
structure Closed (p : FrameSpace) : Prop where
  space : p.remainingSpaceInPkt = 0
  acks : ∀ frame ∈ p.frames, frame.IsAck

theorem Closed.append (h : Closed p) {frame : QuicWriteFrame} (hframe : frame.IsAck) (size : Nat) :
    Closed (p.append frame size) where
  space := by
    have hspace := h.space
    unfold PacketSpace.remainingSpaceInPkt at hspace ⊢
    unfold FrameSpace.append
    dsimp only
    split at hspace
    · omega
    · rw [if_neg (by omega)]
  acks other hother := by
    rcases List.mem_append.mp hother with hother | hother
    · exact h.acks other hother
    · rw [List.mem_singleton.mp hother]
      exact hframe

/-- Acks may still be written, with the bytes that the packet has in truth. -/
theorem Closed.writeNextAcks (h : Closed p) (space : Nat) : Closed (c.writeNextAcks space p) := by
  unfold SchedulingConn.writeNextAcks
  split
  · exact h.append (.inl rfl) _
  · exact h

/-- Crypto data and resets find no room, so the acks come first. -/
theorem Closed.scheduleFirst (h : Closed p) : Closed (f.scheduleFirst c p) := by
  have hcrypto : (if f.cryptoFrames && c.cryptoStream.hasData then
      SchedulingConn.writeCryptoData c.cryptoStream p else (false, p)).2 = p := by
    split
    · exact (Through.writeCryptoData _).closed h.space
    · rfl
  have hrst : (if f.resetFrames && !c.resets.isEmpty then c.writeRsts p else (false, p)).2 = p := by
    split
    · exact Through.writeRsts.closed h.space
    · rfl
  have hacks : ∀ b : Bool, Closed (if b then c.writeNextAcks p.remainingSpaceInPkt p
      else c.writeNextAcks p.remainingBytes p) := by
    intro b
    split
    · exact h.writeNextAcks _
    · exact h.writeNextAcks _
  unfold FrameScheduler.scheduleFirst
  dsimp only
  rw [hcrypto, hrst]
  split
  · exact hacks _
  · exact h

theorem Closed.pad (h : Closed p) : Closed (pad c p) := by
  have hpadding : ∀ n, Closed (p.appendPadding n) := by
    intro n
    unfold FrameSpace.appendPadding
    split
    · exact h
    · exact h.append (.inr rfl) n
  unfold FrameScheduler.pad
  split
  · exact h
  · split
    · exact hpadding _
    · split
      · exact hpadding _
      · exact h
    · split
      · exact hpadding _
      · exact h
    · exact h
    · exact h

/-- When the writable bytes do not reach beyond the header, a packet holds ACK and PADDING frames
only. -/
theorem scheduleFramesForPacket_acks (f : FrameScheduler) (c : SchedulingConn)
    (protectionType : ProtectionType) (remainingBytes : Nat) {headerBytes writableBytes : Nat}
    (h : writableBytes ≤ headerBytes) :
    ∀ frame ∈ (f.scheduleFramesForPacket c protectionType remainingBytes headerBytes
      writableBytes).frames, frame.IsAck := by
  unfold scheduleFramesForPacket
  rw [Nat.sub_eq_zero_of_le h]
  have hstart : Closed ⟨.wrap remainingBytes 0, protectionType, []⟩ := by
    refine ⟨?_, List.forall_mem_nil _⟩
    unfold PacketSpace.wrap PacketSpace.remainingSpaceInPkt
    simp
  have hfirst : Closed (f.scheduleFirst c ⟨.wrap remainingBytes 0, protectionType, []⟩) :=
    hstart.scheduleFirst
  have hrest := (@scheduleRest_through c _ f).closed hfirst.space
  dsimp only
  rw [hrest]
  exact hfirst.pad.acks

end FrameScheduler

end MasqueQuic
