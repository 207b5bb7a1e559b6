/-
Reassembly of one stream.

`Reassembly` runs a connection and keeps, for one stream, which parts have arrived, the
bytes that reads have returned and consumes have released, and what each read reported.
When all frames of the stream are slices of one sequence `S`, what has been taken is
always the beginning of `S`; the read buffer holds the rest of what has arrived, as
segments of `S` in normal form.
-/

import MasqueQuic.Quic.ReceiveAccounting

namespace MasqueQuic

open QuicStreamLike (segs readable)

/-- What a read reported: the end, when everything taken so far was `taken` and the
final size was known or not. -/
structure ReadReport where
  eof : Bool
  taken : Bytes
  finalKnown : Bool
  deriving DecidableEq

/-- A connection, and the history of one of its streams. -/
structure Reassembly where
  receiver : Receiver
  received : List (Nat × Nat)
  fin : Bool
  taken : Bytes
  reads : List ReadReport

/-- The bytes that `consumeDataFromQuicStream` releases instead of returning them. -/
def QuicStreamState.released (s : QuicStreamState) (amount : Nat) : Bytes :=
  if s.finalReadOffset.any (s.currentReadOffset ≥ ·) then []
  else
    match s.toQuicStreamLike.readDataInOrderFromReadBuffer amount false with
    | .error _ => []
    | .ok (data, _, _) => data.bytes

namespace Reassembly

def new (nodeType : QuicNodeType) (settings : ReceiveSettings) : Reassembly :=
  ⟨.new nodeType settings, [], false, [], []⟩

/-- The byte at position `i` has arrived. -/
def Received (h : Reassembly) (i : Nat) : Prop := ∃ p ∈ h.received, p.1 ≤ i ∧ i < p.2

/-- A frame of the stream has been accepted. -/
def onFrame (h : Reassembly) (frame : ReadStreamFrame) : Reassembly :=
  { h with
    received := (frame.offset, frame.offset + frame.data.bytes.length) :: h.received
    fin := h.fin || frame.fin }

def onRead (h : Reassembly) (s' : QuicStreamState) (data : Buf) (eof : Bool) : Reassembly :=
  { h with
    taken := h.taken ++ data.bytes
    reads := h.reads ++ [⟨eof, h.taken ++ data.bytes, s'.finalReadOffset.isSome⟩] }

/-- What an event that succeeds adds to the history of the stream `id`, which is `s` before
and `s'` after it. -/
def observe (h : Reassembly) (s s' : QuicStreamState) (conn : RecvConn) :
    ReceiverEvent → Reassembly
  | .streamFrame frame => if frame.streamId = s.id then h.onFrame frame else h
  | .read id amount t =>
      if id = s.id then
        match s.readDataFromQuicStream conn amount t with
        | .error _ => h
        | .ok ((data, eof), _, _) => h.onRead s' data eof
      else h
  | .consume id amount _ =>
      if id = s.id then { h with taken := h.taken ++ s.released amount } else h
  | _ => h

def step (id : StreamId) (h : Reassembly) (e : ReceiverEvent) :
    Except (QuicException × Receiver) Reassembly :=
  match h.receiver.step e with
  | .error x => .error x
  | .ok r' =>
      match Receiver.getStream h.receiver.streams id, Receiver.getStream r'.streams id with
      | some s, some s' => .ok { h.observe s s' h.receiver.conn e with receiver := r' }
      | _, _ => .ok { h with receiver := r' }

end Reassembly

/-- The frames of the stream are slices of `S`, a FIN comes at the end of `S` only, and the
stream is not reset. -/
def ReceiverEvent.SliceOf (S : Bytes) (id : StreamId) : ReceiverEvent → Prop
  | .streamFrame frame =>
      frame.streamId = id →
        frame.offset + frame.data.bytes.length ≤ S.length ∧
          frame.data.bytes = (S.drop frame.offset).take frame.data.bytes.length ∧
          (frame.fin = true → frame.offset + frame.data.bytes.length = S.length)
  | .rstStream frame _ => frame.streamId ≠ id
  | _ => True

namespace Reassembly

variable {S : Bytes} {h : Reassembly} {s s' : QuicStreamState} {c c' : RecvConn} {t : Now}

/-- How a stream and its history belong together. -/
structure Tracks (S : Bytes) (h : Reassembly) (s : QuicStreamState) : Prop where
  pieces : ∀ piece ∈ segs s.readBuffer, piece.Of S
  taken : h.taken = S.take s.currentReadOffset
  final : s.finalReadOffset = if h.fin then some S.length else none
  observed : s.maxOffsetObserved ≤ S.length
  received : ∀ i, h.Received i ↔
    (i < s.currentReadOffset ∧ i < S.length) ∨ Segment.Covered (segs s.readBuffer) i
  closed : s.recvState = .closed → h.fin = true ∧ ∀ i, i < S.length → h.Received i

theorem Tracks.final_eq (hs : Tracks S h s) {F : Nat} (hF : s.finalReadOffset = some F) :
    h.fin = true ∧ F = S.length := by
  rw [hs.final] at hF
  split at hF
  · rename_i hfin
    cases hF
    exact ⟨hfin, rfl⟩
  · cases hF

theorem Tracks.read_le (hok : s.Ok) (hs : Tracks S h s)
    (hbefore : ∀ F, s.finalReadOffset = some F → s.currentReadOffset < F) :
    s.currentReadOffset ≤ S.length := by
  cases hfinal : s.finalReadOffset with
  | none => exact Nat.le_trans (hok.read_le hfinal) hs.observed
  | some F =>
    have := hbefore F hfinal
    have := (hs.final_eq hfinal).2
    omega

/-! ### Frames -/

theorem received_onFrame {frame : ReadStreamFrame} {i : Nat} :
    (h.onFrame frame).Received i ↔
      (frame.offset ≤ i ∧ i < frame.offset + frame.data.bytes.length) ∨ h.Received i := by
  simp [Received, onFrame]

/-- All of `S` has arrived once `isAllDataReceived` holds. -/
theorem Tracks.of_isAllDataReceived (hs : Tracks S h s) (hall : s.isAllDataReceived = true) :
    h.fin = true ∧ ∀ i, i < S.length → h.Received i := by
  unfold QuicStreamState.isAllDataReceived at hall
  split at hall
  · cases hall
  · rename_i F hfinal
    obtain ⟨hfin, rfl⟩ := hs.final_eq hfinal
    refine ⟨hfin, fun i hi => (hs.received i).mpr ?_⟩
    split at hall
    · rename_i hle
      exact .inl ⟨by omega, hi⟩
    · split at hall
      · rename_i b hbuffer
        simp only [Bool.and_eq_true, beq_iff_eq] at hall
        by_cases hlt : i < s.currentReadOffset
        · exact .inl ⟨hlt, hi⟩
        · right
          rw [hbuffer]
          refine ⟨b.seg, .head _, ?_, ?_⟩
          · change b.offset ≤ i
            omega
          · rw [b.stop_seg]
            omega
      · cases hall

/-- The history and the stream grow together when a slice of `S` is appended. -/
theorem tracks_append {frame : ReadStreamFrame} (hok : s.Ok) (hs : Tracks S h s)
    (hopen : s.recvState = .open)
    (hlen : frame.offset + frame.data.bytes.length ≤ S.length)
    (hslice : frame.data.bytes = (S.drop frame.offset).take frame.data.bytes.length)
    (hfin : frame.fin = true → frame.offset + frame.data.bytes.length = S.length)
    (hcall : s.appendDataToReadBuffer c (.new frame.data frame.offset frame.fin) =
      .ok ((), s', c')) :
    Tracks S (h.onFrame frame) s' ∧ s'.recvState = .open := by
  unfold QuicStreamState.appendDataToReadBuffer at hcall
  split at hcall
  · cases hcall
  · rename_i like c'' happend
    cases hcall
    have hend : (StreamBuffer.new frame.data frame.offset frame.fin).endOffset =
        frame.offset + frame.data.bytes.length := rfl
    rcases QuicStreamLike.appendDataToReadBufferCommon_ok happend with
      ⟨hnofin, hempty, rfl, rfl⟩ | ⟨final, hfinal, -, rfl⟩
    · have hnofin : frame.fin = false := by simpa [StreamBuffer.new] using hnofin
      have hempty : frame.data.bytes.length = 0 := hempty
      refine ⟨⟨hs.pieces, hs.taken, ?_, hs.observed, fun i => ?_, ?_⟩, hopen⟩
      · simp only [onFrame, hnofin, Bool.or_false]
        exact hs.final
      · rw [received_onFrame, hempty, ← hs.received i]
        refine or_iff_right ?_
        omega
      · intro hclosed
        rw [hopen] at hclosed
        cases hclosed
    · obtain ⟨readBuffer, heq, -, hcovered, hof⟩ := @QuicStreamLike.insertUnread_spec
        (.new frame.data frame.offset frame.fin)
        { s.toQuicStreamLike with
          finalReadOffset := final
          maxOffsetObserved := max s.maxOffsetObserved
            (StreamBuffer.new frame.data frame.offset frame.fin).endOffset } S hok.normal
      rw [heq]
      have hbuffer : (StreamBuffer.new frame.data frame.offset frame.fin).seg.Of S := ⟨hlen, hslice⟩
      refine ⟨⟨hof hbuffer hs.pieces, hs.taken, ?_, ?_, fun i => ?_, ?_⟩, hopen⟩
      · change final = if (h.fin || frame.fin) then some S.length else none
        rcases QuicStreamLike.checkFinalOffset_ok hfinal with ⟨heof, rfl, -, -⟩ | ⟨hneof, rfl, -⟩
        · have heof : frame.fin = true := heof
          rw [hend, hfin heof, heof, Bool.or_true, if_pos rfl]
        · have hneof : frame.fin = false := by simpa [StreamBuffer.new] using hneof
          rw [hneof, Bool.or_false]
          exact hs.final
      · change max s.maxOffsetObserved (frame.offset + frame.data.bytes.length) ≤ S.length
        exact Nat.max_le.mpr ⟨hs.observed, hlen⟩
      · have hcover : (StreamBuffer.new frame.data frame.offset frame.fin).seg.Covers i ↔
            frame.offset ≤ i ∧ i < frame.offset + frame.data.bytes.length := Iff.rfl
        have hreceived := hs.received i
        have hcovered := hcovered i
        rw [hcover] at hcovered
        rw [received_onFrame, hreceived, hcovered]
        generalize Segment.Covered (segs s.toQuicStreamLike.readBuffer) i = P
        change _ ↔ (i < s.currentReadOffset ∧ i < S.length) ∨ (s.currentReadOffset ≤ i ∧ _) ∨ P
        by_cases hP : P
        · simp [hP]
        · simp only [hP, or_false]
          omega
      · intro hclosed
        rw [show s.recvState = .closed from hclosed] at hopen
        cases hopen

theorem tracks_streamFrame {frame : ReadStreamFrame} (hok : s.Ok) (hs : Tracks S h s)
    (hslice : ReceiverEvent.SliceOf S s.id (.streamFrame frame)) (hid : frame.streamId = s.id)
    (hcall : s.receiveReadStreamFrameSMHandler c frame = .ok ((), s', c')) :
    Tracks S (h.onFrame frame) s' := by
  obtain ⟨hlen, hbytes, hfin⟩ := hslice hid
  unfold QuicStreamState.receiveReadStreamFrameSMHandler at hcall
  split at hcall
  · rename_i hopen
    split at hcall
    · cases hcall
    · rename_i s1 c1 happend
      obtain ⟨htracks, hopen'⟩ := tracks_append hok hs hopen hlen hbytes hfin happend
      split at hcall
      · rename_i hall
        cases hcall
        exact ⟨htracks.pieces, htracks.taken, htracks.final, htracks.observed, htracks.received,
          fun _ => htracks.of_isAllDataReceived hall⟩
      · cases hcall
        exact htracks
  · -- The frame is discarded: all of `S` is there.
    rename_i hclosed
    obtain ⟨hknown, hall⟩ := hs.closed hclosed
    split at hcall
    · cases hcall
    · cases hcall
      have hreceived : ∀ i, (h.onFrame frame).Received i ↔ h.Received i := by
        intro i
        rw [received_onFrame]
        exact or_iff_right_of_imp fun hi => hall i (by omega)
      refine ⟨hs.pieces, hs.taken, ?_, hs.observed, fun i => (hreceived i).trans (hs.received i),
        fun _ => ⟨by simp [onFrame, hknown], fun i hi => (hreceived i).mpr (hall i hi)⟩⟩
      change s.finalReadOffset = if (h.fin || frame.fin) = true then some S.length else none
      rw [hs.final, hknown]
      rfl
  · cases hcall

/-! ### Reads -/

/-- What lies ready is the continuation of what has been taken. -/
theorem take_front (hs : Tracks S h s) {n : Nat}
    (hn : n ≤ (Segment.front s.currentReadOffset (segs s.readBuffer)).length) :
    h.taken ++ (Segment.front s.currentReadOffset (segs s.readBuffer)).take n =
      S.take (s.currentReadOffset + n) := by
  rw [Segment.front_of hs.pieces, List.take_take, Nat.min_eq_left hn, hs.taken, List.take_add]

/-- A read moves the bytes it takes from the read buffer to the history. -/
theorem tracks_readResult {amount n : Nat} {sinkData eof : Bool} {data : Buf}
    {readBuffer : List StreamBuffer} (hok : s.Ok) (hs : Tracks S h s)
    (hbefore : ∀ F, s.finalReadOffset = some F → s.currentReadOffset < F)
    (hread : QuicStreamState.ReadResult s c amount sinkData t data eof s' c' n readBuffer) :
    Tracks S { h with taken := S.take (s.currentReadOffset + n) } s' ∧
      (eof = true ↔ S.take (s.currentReadOffset + n) = S ∧ s'.finalReadOffset.isSome = true) := by
  have hle := hs.read_le hok hbefore
  obtain ⟨hcount, hleft, -, -, heof, rfl⟩ := hread
  have hn : n ≤ (Segment.front s.currentReadOffset (segs s.readBuffer)).length := by
    rw [hcount]
    exact Nat.min_le_left _ _
  have hlen := Segment.length_front_le (r := s.currentReadOffset) hs.pieces hle
  have heof' : eof = true → S.length = s.currentReadOffset + n := by
    intro h
    rw [heof] at h
    exact (hs.final_eq (of_decide_eq_true h)).2.symm
  refine ⟨⟨?_, ?_, hs.final, hs.observed, fun i => ?_, hs.closed⟩, ?_⟩
  · rw [hleft]
    exact Segment.of_advance hs.pieces
  · change S.take _ = S.take _
    cases hend : eof with
    | false => rfl
    | true =>
      have := heof' hend
      change S.take (s.currentReadOffset + n) = S.take (s.currentReadOffset + n + 1)
      rw [List.take_of_length_le (by omega), List.take_of_length_le (by omega)]
  · have hcovered := Segment.covered_advance (i := i) hok.normal hn
    rw [← hleft] at hcovered
    refine (hs.received i).trans ?_
    rw [hcovered]
    generalize Segment.Covered (segs readBuffer) i = P
    by_cases hP : P
    · simp [hP]
    · simp only [hP, or_false]
      cases hend : eof with
      | false =>
        change _ ↔ i < s.currentReadOffset + n + 0 ∧ _
        omega
      | true =>
        have := heof' hend
        change _ ↔ i < s.currentReadOffset + n + 1 ∧ _
        omega
  · constructor
    · intro hend
      have := heof' hend
      rw [heof] at hend
      exact ⟨List.take_of_length_le (by omega),
        Option.isSome_iff_exists.mpr ⟨_, of_decide_eq_true hend⟩⟩
    · rintro ⟨htake, hknown⟩
      obtain ⟨F, hF⟩ := Option.isSome_iff_exists.mp hknown
      obtain ⟨-, rfl⟩ := hs.final_eq hF
      have hlength := congrArg List.length htake
      rw [List.length_take] at hlength
      rw [heof]
      refine decide_eq_true (hF.trans ?_)
      rw [show S.length = s.currentReadOffset + n by omega]

/-- At the end a read takes nothing. -/
theorem tracks_end {F : Nat} (hs : Tracks S h s) (hfinal : s.finalReadOffset = some F)
    (hle : F ≤ s.currentReadOffset) :
    Tracks S h { s with currentReadOffset := max s.currentReadOffset (F + 1) } ∧ h.taken = S := by
  obtain ⟨-, rfl⟩ := hs.final_eq hfinal
  have htaken : h.taken = S := by rw [hs.taken, List.take_of_length_le hle]
  refine ⟨⟨hs.pieces, ?_, hs.final, hs.observed, fun i => ?_, hs.closed⟩, htaken⟩
  · rw [htaken]
    exact (List.take_of_length_le (by dsimp only; omega)).symm
  · refine (hs.received i).trans (or_congr_left ?_)
    dsimp only
    omega

/-- A read, with its report. -/
theorem tracks_read {amount : Nat} {data : Buf} {eof : Bool} (hok : s.Ok) (hs : Tracks S h s)
    (hcall : s.readDataFromQuicStream c amount t = .ok ((data, eof), s', c')) :
    Tracks S (h.onRead s' data eof) s' ∧
      (eof = true ↔ h.taken ++ data.bytes = S ∧ s'.finalReadOffset.isSome = true) := by
  rcases @QuicStreamState.readOrConsume_spec c _ t amount
    false hok.normal with ⟨F, hfinal, hle, heq⟩ | ⟨hbefore, ⟨e, s'', c'', heq, -⟩ |
      ⟨data', eof', s'', c'', n, readBuffer, heq, hread⟩⟩
  · rw [QuicStreamState.readDataFromQuicStream, heq] at hcall
    cases hcall
    obtain ⟨htracks, htaken⟩ := tracks_end hs hfinal hle
    have hdata : h.taken ++ Buf.bytes none = h.taken := List.append_nil _
    refine ⟨⟨htracks.pieces, ?_, htracks.final, htracks.observed, htracks.received,
      htracks.closed⟩, ?_⟩
    · change h.taken ++ Buf.bytes none = _
      rw [hdata]
      exact htracks.taken
    · rw [hdata]
      exact ⟨fun _ => ⟨htaken, Option.isSome_iff_exists.mpr ⟨F, hfinal⟩⟩, fun _ => rfl⟩
  · rw [QuicStreamState.readDataFromQuicStream, heq] at hcall
    cases hcall
  · rw [QuicStreamState.readDataFromQuicStream, heq] at hcall
    cases hcall
    obtain ⟨htracks, hend⟩ := tracks_readResult hok hs hbefore hread
    have hn : n ≤ (Segment.front s.currentReadOffset (segs s.readBuffer)).length := by
      rw [hread.count]
      exact Nat.min_le_left _ _
    have hdata : h.taken ++ data.bytes = S.take (s.currentReadOffset + n) := by
      rw [hread.data_eq]
      exact take_front hs hn
    rw [hdata]
    refine ⟨⟨htracks.pieces, ?_, htracks.final, htracks.observed, htracks.received,
      htracks.closed⟩, hend⟩
    exact hdata.trans htracks.taken

theorem released_of_end {amount F : Nat} (hfinal : s.finalReadOffset = some F)
    (hle : F ≤ s.currentReadOffset) : s.released amount = [] := by
  unfold QuicStreamState.released
  rw [if_pos (by simp [hfinal, hle])]

theorem released_of_before {amount : Nat} (hok : s.Ok)
    (hbefore : ∀ F, s.finalReadOffset = some F → s.currentReadOffset < F) :
    s.released amount = (Segment.front s.currentReadOffset (segs s.readBuffer)).take
      (readable amount (Segment.front s.currentReadOffset (segs s.readBuffer))) := by
  have hnot : ¬ s.finalReadOffset.any (s.currentReadOffset ≥ ·) := by
    cases hfinal : s.finalReadOffset with
    | none => simp
    | some F => simpa using hbefore F hfinal
  obtain ⟨out, hrun, -, -, hdata⟩ := @QuicStreamLike.readInOrder_spec _ amount
    _ false hok.normal
  unfold QuicStreamState.released QuicStreamLike.readDataInOrderFromReadBuffer
  rw [if_neg hnot, hrun]
  exact hdata

/-- A consume releases what a read would have returned. -/
theorem tracks_consume {amount : Nat} (hok : s.Ok) (hs : Tracks S h s)
    (hcall : s.consumeDataFromQuicStream c amount t = .ok ((), s', c')) :
    Tracks S { h with taken := h.taken ++ s.released amount } s' := by
  unfold QuicStreamState.consumeDataFromQuicStream at hcall
  rcases @QuicStreamState.readOrConsume_spec c _ t amount
    true hok.normal with ⟨F, hfinal, hle, heq⟩ | ⟨hbefore, ⟨e, s'', c'', heq, -⟩ |
      ⟨data', eof', s'', c'', n, readBuffer, heq, hread⟩⟩
  · rw [heq] at hcall
    cases hcall
    rw [released_of_end hfinal hle, List.append_nil]
    exact (tracks_end hs hfinal hle).1
  · rw [heq] at hcall
    cases hcall
  · rw [heq] at hcall
    cases hcall
    have hn : n ≤ (Segment.front s.currentReadOffset (segs s.readBuffer)).length := by
      rw [hread.count]
      exact Nat.min_le_left _ _
    rw [released_of_before hok hbefore, ← hread.count, take_front hs hn]
    exact (tracks_readResult hok hs hbefore hread).1

/-! ### Runs -/

variable {id : StreamId} {r' : Receiver} {h' : Reassembly}

/-- What holds after every run whose frames for the stream are slices of `S`. -/
structure Inv (S : Bytes) (id : StreamId) (h : Reassembly) : Prop where
  accounting : h.receiver.Accounting
  prefix_taken : h.taken <+: S
  reports : ∀ p ∈ h.reads, p.eof = true ↔ p.taken = S ∧ p.finalKnown = true
  fresh : (∀ s ∈ h.receiver.opened, s.id ≠ id) → h.received = [] ∧ h.fin = false ∧ h.taken = []
  tracks : ∀ s, Receiver.getStream h.receiver.streams id = some s → Tracks S h s

theorem inv_new (S : Bytes) (id : StreamId) (nodeType : QuicNodeType)
    (settings : ReceiveSettings) : Inv S id (new nodeType settings) :=
  ⟨Receiver.accounting_new nodeType settings, List.nil_prefix, nofun, fun _ => ⟨rfl, rfl, rfl⟩,
    nofun⟩

theorem Tracks.isPrefix (hs : Tracks S h s) : h.taken <+: S := by
  rw [hs.taken]
  exact List.take_prefix _ _

/-- An event that does not touch the reassembly of the stream. -/
theorem Inv.quiet (hinv : Inv S id h) (hacc : r'.Accounting)
    (hgrow : Receiver.LimitsGrow h.receiver r')
    (hstream : ∀ s', Receiver.getStream r'.streams id = some s' →
      ∃ s, Receiver.getStream h.receiver.streams id = some s ∧
        s'.toQuicStreamLike = s.toQuicStreamLike ∧ s'.recvState = s.recvState) :
    Inv S id { h with receiver := r' } := by
  refine ⟨hacc, hinv.prefix_taken, hinv.reports, fun hnone => hinv.fresh fun s hs hid => ?_,
    fun s' hs' => ?_⟩
  · obtain ⟨s', hs', hid', -⟩ := hgrow.stream s hs
    exact hnone s' hs' (hid'.trans hid)
  · obtain ⟨s, hs, hlike, hstate⟩ := hstream s' hs'
    have htracks := hinv.tracks s hs
    obtain ⟨like', id', flow', err', state'⟩ := s'
    obtain ⟨like, id'', flow, err, state⟩ := s
    cases hlike
    cases hstate
    exact ⟨htracks.pieces, htracks.taken, htracks.final, htracks.observed, htracks.received,
      htracks.closed⟩

theorem step_eq_ok {e : ReceiverEvent} (hstep : step id h e = .ok h') :
    ∃ r', h.receiver.step e = .ok r' ∧
      ((∃ s s', Receiver.getStream h.receiver.streams id = some s ∧
        Receiver.getStream r'.streams id = some s' ∧
        h' = { h.observe s s' h.receiver.conn e with receiver := r' }) ∨
      ((Receiver.getStream h.receiver.streams id = none ∨
        Receiver.getStream r'.streams id = none) ∧ h' = { h with receiver := r' })) := by
  unfold step at hstep
  split at hstep
  · cases hstep
  · rename_i r' hr'
    refine ⟨r', hr', ?_⟩
    split at hstep
    · rename_i s s' hs hs'
      cases hstep
      exact .inl ⟨s, s', hs, hs', rfl⟩
    · rename_i hnone
      cases hstep
      refine .inr ⟨?_, rfl⟩
      cases hs : Receiver.getStream h.receiver.streams id with
      | none => exact .inl rfl
      | some s =>
        cases hs' : Receiver.getStream r'.streams id with
        | none => exact .inr rfl
        | some s' => exact absurd hs' (hnone s s' hs)

/-- An event that calls a function for the stream `i`. -/
theorem inv_onStream {α : Type} {f : QuicStreamState → RecvConn → OnStream α} {i : StreamId}
    {e : ReceiverEvent} (hinv : Inv S id h)
    (hf : ∀ s s' c c' a, s.Ok → f s c = .ok (a, s', c') → QuicStreamState.Accounted s s' c c')
    (hevent : h.receiver.step e = (·.2) <$> h.receiver.onStream i f)
    (hother : i ≠ id → ∀ s s', s.id = id → h.observe s s' h.receiver.conn e = h)
    (hself : i = id → ∀ a s s' c', Receiver.getStream h.receiver.streams id = some s → s.id = id →
      s.Ok → f s h.receiver.conn = .ok (a, s', c') →
        Tracks S (h.observe s s' h.receiver.conn e) s' ∧
          ∀ p ∈ (h.observe s s' h.receiver.conn e).reads,
            p.eof = true ↔ p.taken = S ∧ p.finalKnown = true)
    (hstep : step id h e = .ok h') : Inv S id h' := by
  obtain ⟨r', hr', hcase⟩ := step_eq_ok hstep
  obtain ⟨hacc, hgrow⟩ := Receiver.step_accounting hinv.accounting hr'
  rw [hevent, Receiver.map_snd_eq_ok] at hr'
  obtain ⟨out, hr'⟩ := hr'
  obtain ⟨hne, hnone, hsome⟩ := @Receiver.onStream_getStream _ _ id _ _ _ _ hf hinv.accounting hr'
  have hquiet : Receiver.getStream r'.streams id = Receiver.getStream h.receiver.streams id →
      Inv S id { h with receiver := r' } := fun hsame =>
    hinv.quiet hacc hgrow fun s' hs' => ⟨s', hsame ▸ hs', rfl, rfl⟩
  by_cases hi : i = id
  · subst hi
    rcases hcase with ⟨s, s', hs, hs', rfl⟩ | ⟨hor, rfl⟩
    · obtain ⟨a, s'', c', hcall, hs''⟩ := hsome s hs
      rw [hs'] at hs''
      cases hs''
      have hid := (Receiver.getStream_eq_some hs).1
      obtain ⟨htracks, hreports⟩ := hself rfl a s s' c' hs hid
        (Receiver.ok_of_getStream hinv.accounting hs) hcall
      refine ⟨hacc, htracks.isPrefix, hreports, fun hfresh => ?_, fun u hu => ?_⟩
      · obtain ⟨hid', pre, post, hstreams, -⟩ := Receiver.getStream_eq_some hs'
        exact absurd hid' (hfresh s' (by simp [Receiver.opened, hstreams]))
      · have hu : Receiver.getStream r'.streams i = some u := hu
        rw [hs'] at hu
        cases hu
        exact ⟨htracks.pieces, htracks.taken, htracks.final, htracks.observed, htracks.received,
          htracks.closed⟩
    · rcases hor with hget | hget
      · exact hquiet (by rw [hnone hget])
      · refine hquiet ?_
        cases hs : Receiver.getStream h.receiver.streams i with
        | none => exact hget
        | some s =>
          obtain ⟨a, s', c', -, hs'⟩ := hsome s hs
          rw [hget] at hs'
          cases hs'
  · have hsame := hne hi
    rcases hcase with ⟨s, s', hs, -, rfl⟩ | ⟨-, rfl⟩
    · rw [hother hi s s' (Receiver.getStream_eq_some hs).1]
      exact hquiet hsame
    · exact hquiet hsame

/-- A stream starts with an empty history. -/
theorem tracks_new (c : RecvConn) (id : StreamId) (hreceived : h.received = [])
    (hfin : h.fin = false) (htaken : h.taken = []) : Tracks S h (.new c id) where
  pieces := nofun
  taken := htaken
  final := by rw [hfin]; rfl
  observed := Nat.zero_le _
  received := by
    intro i
    simp only [Received, hreceived, List.not_mem_nil, false_and, exists_false, false_iff]
    rintro (⟨hlt, -⟩ | ⟨b, hb, -⟩)
    · exact Nat.not_lt_zero i hlt
    · cases hb
  closed := by
    intro hclosed
    simp only [QuicStreamState.new] at hclosed
    split at hclosed <;> cases hclosed

theorem inv_openStream {i : StreamId} (hinv : Inv S id h)
    (hstep : step id h (.openStream i) = .ok h') : Inv S id h' := by
  obtain ⟨r', hr', hcase⟩ := step_eq_ok hstep
  obtain ⟨hacc, hgrow⟩ := Receiver.step_accounting hinv.accounting hr'
  have hh' : h' = { h with receiver := r' } := by
    rcases hcase with ⟨s, s', -, -, rfl⟩ | ⟨-, rfl⟩ <;> rfl
  rw [hh']
  rw [Receiver.step] at hr'
  split at hr'
  · cases hr'
    exact hinv
  · rename_i hnew
    cases hr'
    have hfresh : ∀ s ∈ h.receiver.opened, s.id ≠ i := fun s hs hid =>
      hnew (List.any_eq_true.mpr ⟨s, hs, beq_iff_eq.mpr hid⟩)
    have hget : Receiver.getStream (h.receiver.streams ++ [.new h.receiver.conn i]) id =
        (Receiver.getStream h.receiver.streams id).or
          (if i = id then some (.new h.receiver.conn i) else none) := by
      rw [Receiver.getStream, List.find?_append]
      congr 1
      by_cases hi : i = id
      · simp [hi, QuicStreamState.new]
      · simp [hi, QuicStreamState.new]
    by_cases hi : i = id
    · subst hi
      obtain ⟨hreceived, hfin, htaken⟩ := hinv.fresh hfresh
      refine ⟨hacc, hinv.prefix_taken, hinv.reports, fun hnone => ?_, fun s hs => ?_⟩
      · exact absurd rfl (hnone (.new h.receiver.conn i) (by simp [Receiver.opened]))
      · have hs : Receiver.getStream (h.receiver.streams ++ [.new h.receiver.conn i]) i = some s :=
          hs
        rw [hget, if_pos rfl] at hs
        have hnone : Receiver.getStream h.receiver.streams i = none := by
          refine List.find?_eq_none.mpr fun s hs hbeq => ?_
          exact hfresh s (List.mem_append_left _ hs) (beq_iff_eq.mp hbeq)
        rw [hnone] at hs
        cases hs
        exact tracks_new h.receiver.conn i hreceived hfin htaken
    · refine hinv.quiet hacc hgrow fun s' hs' => ⟨s', ?_, rfl, rfl⟩
      rw [if_neg hi, Option.or_none] at hget
      exact hget ▸ hs'

theorem inv_removeStream {i : StreamId} (hinv : Inv S id h)
    (hstep : step id h (.removeStream i) = .ok h') : Inv S id h' := by
  obtain ⟨r', hr', hcase⟩ := step_eq_ok hstep
  obtain ⟨hacc, hgrow⟩ := Receiver.step_accounting hinv.accounting hr'
  have hh' : h' = { h with receiver := r' } := by
    rcases hcase with ⟨s, s', -, -, rfl⟩ | ⟨-, rfl⟩ <;> rfl
  rw [hh']
  cases hr'
  refine hinv.quiet hacc hgrow fun s' hs' => ?_
  rw [Receiver.getStream, List.find?_filter] at hs'
  have hid : s'.id = id := by
    have := List.find?_some hs'
    simp only [decide_eq_true_eq, beq_iff_eq] at this
    exact this.2
  have hne : i ≠ id := by
    intro h
    have := List.find?_some hs'
    simp [h, hid] at this
  refine ⟨s', ?_, rfl, rfl⟩
  rw [Receiver.getStream, ← hs']
  congr 1
  funext s
  by_cases hs : s.id = id
  · simp [hs, hne.symm]
  · simp [hs]

theorem inv_sendMaxData {sentTime : Nat} (hinv : Inv S id h)
    (hstep : step id h (.sendMaxData sentTime) = .ok h') : Inv S id h' := by
  obtain ⟨r', hr', hcase⟩ := step_eq_ok hstep
  obtain ⟨hacc, hgrow⟩ := Receiver.step_accounting hinv.accounting hr'
  have hh' : h' = { h with receiver := r' } := by
    rcases hcase with ⟨s, s', -, -, rfl⟩ | ⟨-, rfl⟩ <;> rfl
  rw [hh']
  cases hr'
  exact hinv.quiet hacc hgrow fun s' hs' => ⟨s', hs', rfl, rfl⟩

theorem step_inv {e : ReceiverEvent} (hinv : Inv S id h) (hslice : e.SliceOf S id)
    (hstep : step id h e = .ok h') : Inv S id h' := by
  cases e with
  | openStream i => exact inv_openStream hinv hstep
  | removeStream i => exact inv_removeStream hinv hstep
  | sendMaxData sentTime => exact inv_sendMaxData hinv hstep
  | streamFrame frame =>
    refine inv_onStream hinv (fun s s' c c' a hs h =>
      QuicStreamState.receiveReadStreamFrameSMHandler_accounted hs h) rfl ?_ ?_ hstep
    · intro hne s s' hid
      exact if_neg (hid ▸ hne)
    · intro heq a s s' c' hget hid hok hcall
      have hobserve : h.observe s s' h.receiver.conn (.streamFrame frame) = h.onFrame frame :=
        if_pos (heq.trans hid.symm)
      rw [hobserve]
      exact ⟨tracks_streamFrame hok (hinv.tracks s hget) (hid ▸ hslice) (heq.trans hid.symm) hcall,
        hinv.reports⟩
  | rstStream frame t =>
    refine inv_onStream hinv (fun s s' c c' a hs h =>
      QuicStreamState.receiveRstStreamSMHandler_accounted hs h) rfl (fun _ _ _ _ => rfl) ?_ hstep
    intro heq
    exact absurd heq hslice
  | read i amount t =>
    refine inv_onStream hinv (fun s s' c c' a hs h =>
      QuicStreamState.readDataFromQuicStream_accounted hs h) rfl ?_ ?_ hstep
    · intro hne s s' hid
      exact if_neg (hid ▸ hne)
    · rintro heq ⟨data, eof⟩ s s' c' hget hid hok hcall
      have hobserve : h.observe s s' h.receiver.conn (.read i amount t) =
          h.onRead s' data eof := by
        rw [observe, if_pos (heq.trans hid.symm), hcall]
      rw [hobserve]
      obtain ⟨htracks, hreport⟩ := tracks_read hok (hinv.tracks s hget) hcall
      refine ⟨htracks, fun p hp => ?_⟩
      rcases List.mem_append.mp hp with hp | hp
      · exact hinv.reports p hp
      · cases List.mem_singleton.mp hp
        exact hreport
  | consume i amount t =>
    refine inv_onStream hinv (fun s s' c c' a hs h =>
      QuicStreamState.consumeDataFromQuicStream_accounted hs h) rfl ?_ ?_ hstep
    · intro hne s s' hid
      exact if_neg (hid ▸ hne)
    · intro heq a s s' c' hget hid hok hcall
      have hobserve : h.observe s s' h.receiver.conn (.consume i amount t) =
          { h with taken := h.taken ++ s.released amount } := if_pos (heq.trans hid.symm)
      rw [hobserve]
      exact ⟨tracks_consume hok (hinv.tracks s hget) hcall, hinv.reports⟩
  | sendMaxStreamData i sentTime =>
    refine inv_onStream (f := fun s c =>
      .ok ((), onStreamWindowUpdateSent s c (generateMaxStreamDataFrame s) sentTime)) hinv
      (fun s s' c c' a hs h => ?_) rfl (fun _ _ _ _ => rfl) ?_ hstep
    · cases h
      exact QuicStreamState.onStreamWindowUpdateSent_accounted hs rfl
    · intro heq a s s' c' hget hid hok hcall
      cases hcall
      have htracks := hinv.tracks s hget
      exact ⟨⟨htracks.pieces, htracks.taken, htracks.final, htracks.observed, htracks.received,
        htracks.closed⟩, hinv.reports⟩

/-- Everything available has been read: no section starts at the read offset. -/
def Drained (s : QuicStreamState) : Prop :=
  ∀ b, s.readBuffer.head? = some b → b.offset ≠ s.currentReadOffset

theorem drained_iff (hok : s.Ok) :
    Drained s ↔ ¬ Segment.Covered (segs s.readBuffer) s.currentReadOffset := by
  rw [← Segment.front_eq_nil_iff hok.normal]
  have hnonempty := hok.normal.nonempty
  unfold Drained
  cases hbuffer : s.readBuffer with
  | nil => simp [Segment.front]
  | cons b rest =>
    rw [hbuffer] at hnonempty
    have hb := hnonempty b.seg (.head _)
    rw [QuicStreamLike.segs_cons, Segment.front]
    constructor
    · intro h
      exact if_neg (h b rfl)
    · rintro h b' hb' heq
      cases hb'
      rw [if_pos (show b.seg.offset = _ from heq)] at h
      exact hb h

/-- What has been taken ends at the first byte that has not arrived. -/
theorem Tracks.first_missing (hok : s.Ok) (hs : Tracks S h s) (hdrained : Drained s) :
    (∀ i, i < h.taken.length → h.Received i) ∧ ¬ h.Received h.taken.length := by
  have hnot := (drained_iff hok).mp hdrained
  have hlength : h.taken.length = min s.currentReadOffset S.length := by
    rw [hs.taken, List.length_take]
  rw [hlength]
  refine ⟨fun i hi => (hs.received i).mpr (.inl (by omega)), fun hreceived => ?_⟩
  rcases (hs.received _).mp hreceived with hlt | hcovered
  · omega
  · have hlt := hok.covered_lt _ hcovered
    have hobserved := hs.observed
    rw [Nat.min_eq_left (by omega)] at hcovered
    exact hnot hcovered

/-- A read without a limit leaves nothing that could be read. -/
theorem drained_readAll {out : Buf × Bool} (hok : s.Ok)
    (hcall : s.readDataFromQuicStream c 0 t = .ok (out, s', c')) : Drained s' := by
  have hok' := (QuicStreamState.readDataFromQuicStream_accounted hok hcall).ok
  rw [drained_iff hok']
  rcases @QuicStreamState.readOrConsume_spec c _ t 0
    false hok.normal with ⟨F, hfinal, hle, heq⟩ | ⟨hbefore, ⟨e, s'', c'', heq, -⟩ |
      ⟨data', eof', s'', c'', n, readBuffer, heq, hread⟩⟩
  · rw [QuicStreamState.readDataFromQuicStream, heq] at hcall
    cases hcall
    intro hcovered
    have hlt := hok.covered_lt _ hcovered
    have hmax := (hok.final_eq F hfinal).1
    dsimp only at hlt
    omega
  · rw [QuicStreamState.readDataFromQuicStream, heq] at hcall
    cases hcall
  · rw [QuicStreamState.readDataFromQuicStream, heq] at hcall
    cases hcall
    have hcount := hread.count
    rw [readable, if_pos rfl, Nat.min_self] at hcount
    have hnot := Segment.not_covered_advance hok.normal
    rw [← hcount, ← hread.left] at hnot
    have hbuffer : s'.readBuffer = readBuffer := by rw [hread.stream_eq]
    intro hcovered
    cases hend : eof' with
    | false =>
      have hcur : s'.currentReadOffset = s.currentReadOffset + n := by
        rw [hread.stream_eq, hend]
        rfl
      rw [hbuffer, hcur] at hcovered
      exact hnot hcovered
    | true =>
      have hF : s'.finalReadOffset = some (s.currentReadOffset + n) := by
        have := hread.eof_eq
        rw [hend] at this
        rw [hread.stream_eq]
        exact of_decide_eq_true this.symm
      have hcur : s'.currentReadOffset = s.currentReadOffset + n + 1 := by
        rw [hread.stream_eq, hend]
        rfl
      have hlt := hok'.covered_lt _ hcovered
      have hmax := (hok'.final_eq _ hF).1
      omega

/-- Reassembly over every run whose frames for the stream are slices of `S`. -/
theorem reassembles (S : Bytes) (id : StreamId) (nodeType : QuicNodeType)
    (settings : ReceiveSettings) {es : List ReceiverEvent} (hes : ∀ e ∈ es, e.SliceOf S id) :
    (∀ x r, es.foldlM (step id) (new nodeType settings) = .error (x, r) →
      x ≠ .check .readOffset ∧ x ≠ .underflow) ∧
    ∀ h, es.foldlM (step id) (new nodeType settings) = .ok h →
      h.taken <+: S ∧
      (∀ p ∈ h.reads, p.eof = true ↔ p.taken = S ∧ p.finalKnown = true) ∧
      ∀ s, Receiver.getStream h.receiver.streams id = some s →
        Segment.Normal s.currentReadOffset (segs s.readBuffer) ∧
        (Drained s → (∀ i, i < h.taken.length → h.Received i) ∧ ¬ h.Received h.taken.length) ∧
        ∀ t out s' c', s.readDataFromQuicStream h.receiver.conn 0 t = .ok (out, s', c') →
          Drained s' := by
  have hstep : ∀ h e h', e.SliceOf S id → Inv S id h → step id h e = .ok h' → Inv S id h' :=
    fun h e h' he hinv hstep => step_inv hinv he hstep
  refine ⟨fun x r hrun => ?_, fun h hrun => ?_⟩
  · refine run_error_on (Q := fun f => f.1 ≠ .check .readOffset ∧ f.1 ≠ .underflow) hstep ?_
      (inv_new S id nodeType settings) hes hrun
    rintro h e ⟨x, r⟩ - hinv hfail
    unfold step at hfail
    split at hfail
    · rename_i hr
      cases hfail
      exact Receiver.step_error hinv.accounting hr
    · split at hfail <;> cases hfail
  · have hinv := run_invariant_on hstep (inv_new S id nodeType settings) hes hrun
    refine ⟨hinv.prefix_taken, hinv.reports, fun s hs => ?_⟩
    have hok := Receiver.ok_of_getStream hinv.accounting hs
    exact ⟨hok.normal, (hinv.tracks s hs).first_missing hok,
      fun t out s' c' hcall => drained_readAll hok hcall⟩

/-- Three bytes that arrive in two overlapping frames, the end first, and are read in two
steps. -/
def overlapping : List ReceiverEvent :=
  [.openStream 0, .streamFrame ⟨0, 1, some (IOBuf.wrapBuffer [2, 3]), true⟩,
    .streamFrame ⟨0, 0, some (IOBuf.wrapBuffer [1, 2]), false⟩, .read 0 2 ⟨0, 0⟩,
    .read 0 0 ⟨0, 0⟩]

theorem reassembles_overlapping :
    ∃ h, overlapping.foldlM (step 0) (new .server Receiver.tenBytes) = .ok h ∧
      h.taken = [1, 2, 3] ∧ h.taken <+: [1, 2, 3] ∧
      h.reads = [⟨false, [1, 2], true⟩, ⟨true, [1, 2, 3], true⟩] := by
  have hslices : ∀ e ∈ overlapping, e.SliceOf [1, 2, 3] 0 := by
    simp [overlapping, ReceiverEvent.SliceOf, IOBuf.wrapBuffer, IOBuf.bytes, IOBuf.elems]
  have hrun : overlapping.foldlM (step 0) (new .server Receiver.tenBytes) = .ok _ := rfl
  obtain ⟨-, hgood⟩ := reassembles [1, 2, 3] 0 .server Receiver.tenBytes hslices
  exact ⟨_, hrun, rfl, (hgood _ hrun).1, rfl⟩

/-- What a consume releases is not returned: the only read of this run returns the second
of two bytes. -/
theorem reassembles_consume :
    ∃ r s data eof s' c', [.openStream 0, .streamFrame ⟨0, 0, some (IOBuf.wrapBuffer [1, 2]), true⟩,
        .consume 0 1 ⟨0, 0⟩].foldlM Receiver.step (.new .server Receiver.tenBytes) = .ok r ∧
      Receiver.getStream r.streams 0 = some s ∧
      s.readDataFromQuicStream r.conn 0 ⟨0, 0⟩ = .ok ((data, eof), s', c') ∧
      ¬ data.bytes <+: [1, 2] :=
  ⟨_, _, _, _, _, _, rfl, rfl, rfl, by decide⟩

end Reassembly

end MasqueQuic
