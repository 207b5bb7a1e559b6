/-
The accounting of receive flow control.

`QuicStreamState.Ok` is what every stream satisfies between calls: the read buffer is in
normal form, ends at or below the largest offset observed, and the final size is that
offset. `Accounted` says how a call may change a stream and the connection: what it
adds to a counter of the stream it adds to the sum of the connection, and limits only
grow. Every function of the receive side is `Accounted`; the sums over all streams and
their bounds follow by summation.
-/

import Mathlib.Algebra.Order.BigOperators.Group.List
import MasqueQuic.Lib.Run
import MasqueQuic.Quic.FlowControl
import MasqueQuic.Quic.ReadBuffer

namespace MasqueQuic

open QuicStreamLike (segs)

/-! ### What the functions of the flow controller do -/

variable {c c' : RecvConn} {s s' : QuicStreamState} {t : Now}

theorem updateFlowControlOnStreamData_eq (id : StreamId) (advertised previous endOffset : Nat) :
    updateFlowControlOnStreamData id advertised previous endOffset c =
      if advertised < endOffset then
        .error (.transport ("Stream flow control violation on stream " ++ toString id)
          .flowControlError)
      else if c.flowControlState.sumMaxObservedOffset >
          2 ^ 64 - 1 - (max previous endOffset - previous) then
        .error (.internal "flow control state overflow")
      else if c.flowControlState.sumMaxObservedOffset + (max previous endOffset - previous) >
          c.flowControlState.advertisedMaxOffset then
        .error (.transport "Connection flow control violation" .flowControlError)
      else .ok { c with flowControlState := { c.flowControlState with
        sumMaxObservedOffset :=
          c.flowControlState.sumMaxObservedOffset + (max previous endOffset - previous) } } := by
  unfold updateFlowControlOnStreamData incrementWithOverFlowCheck
  split
  · rfl
  · by_cases h : c.flowControlState.sumMaxObservedOffset >
        2 ^ 64 - 1 - (max previous endOffset - previous)
    · simp only [if_pos h]
    · simp only [if_neg h]

theorem updateFlowControlOnStreamData_ok {id : StreamId} {advertised previous endOffset : Nat}
    (h : updateFlowControlOnStreamData id advertised previous endOffset c = .ok c') :
    endOffset ≤ advertised ∧
      c.flowControlState.sumMaxObservedOffset + (max previous endOffset - previous) ≤
        c.flowControlState.advertisedMaxOffset ∧
      c' = { c with flowControlState := { c.flowControlState with
        sumMaxObservedOffset :=
          c.flowControlState.sumMaxObservedOffset + (max previous endOffset - previous) } } := by
  rw [updateFlowControlOnStreamData_eq] at h
  split at h
  · cases h
  · rename_i hstream
    split at h
    · cases h
    · split at h
      · cases h
      · rename_i hconn
        cases h
        exact ⟨Nat.le_of_not_lt hstream, Nat.le_of_not_lt hconn, rfl⟩

/-- The counters of a connection. -/
def RecvConn.counters (c : RecvConn) : Nat × Nat × Nat :=
  (c.flowControlState.sumMaxObservedOffset, c.flowControlState.sumCurReadOffset,
    c.flowControlState.advertisedMaxOffset)

/-- Autotuning changes the window only. -/
theorem maybeIncreaseConnectionFlowControlWindow_ok {f f' : ConnectionFlowControlState}
    (h : maybeIncreaseConnectionFlowControlWindow f t = .ok f') :
    ∃ windowSize, f' = { f with windowSize } := by
  unfold maybeIncreaseConnectionFlowControlWindow at h
  split at h
  · cases h
    exact ⟨_, rfl⟩
  · split at h
    · cases h
      exact ⟨_, rfl⟩
    · split at h
      · cases h
      · split at h <;> cases h <;> exact ⟨_, rfl⟩

theorem maybeSendConnWindowUpdate_ok (h : maybeSendConnWindowUpdate c t = .ok c') :
    c'.counters = c.counters := by
  unfold maybeSendConnWindowUpdate at h
  dsimp only at h
  split at h
  · cases h
    rfl
  · split at h
    · cases h
      rfl
    · split at h
      · split at h
        · cases h
        · rename_i f hincrease
          cases h
          obtain ⟨windowSize, rfl⟩ := maybeIncreaseConnectionFlowControlWindow_ok hincrease
          rfl
      · cases h
        rfl

theorem maybeSendStreamWindowUpdate_counters :
    (maybeSendStreamWindowUpdate s c t).counters = c.counters := by
  unfold maybeSendStreamWindowUpdate
  split
  · rfl
  · split <;> rfl

/-- Only the window and the requests for window updates change beside the sum. -/
theorem updateFlowControlOnRead_ok {last : Nat} (h : updateFlowControlOnRead s last c t = .ok c') :
    c'.counters = (c.flowControlState.sumMaxObservedOffset,
      c.flowControlState.sumCurReadOffset + (s.currentReadOffset - last),
      c.flowControlState.advertisedMaxOffset) := by
  unfold updateFlowControlOnRead incrementWithOverFlowCheck at h
  split at h
  · cases h
  · rename_i sum hsum
    split at hsum
    · cases hsum
    · cases hsum
      dsimp only at h
      split at h
      · cases h
      · rename_i hsend
        cases h
        rw [maybeSendStreamWindowUpdate_counters, maybeSendConnWindowUpdate_ok hsend]
        rfl

theorem maybeSendConnWindowUpdate_error {e : QuicException}
    (h : maybeSendConnWindowUpdate c t = .error e) : e = .check .flowControlTime := by
  unfold maybeSendConnWindowUpdate maybeIncreaseConnectionFlowControlWindow at h
  dsimp only at h
  split at h
  · cases h
  · split at h
    · cases h
    · split at h
      · split at h
        · rename_i hincrease
          cases h
          split at hincrease
          · cases hincrease
          · split at hincrease
            · cases hincrease
            · split at hincrease
              · cases hincrease
                rfl
              · split at hincrease <;> cases hincrease
        · cases h
      · cases h

/-- A failing update of the sums is an overflow or a clock that stood still. -/
theorem updateFlowControlOnRead_error {last : Nat} {e : QuicException}
    (h : updateFlowControlOnRead s last c t = .error (e, c')) :
    e = .internal "flow control state overflow" ∨ e = .check .flowControlTime := by
  unfold updateFlowControlOnRead incrementWithOverFlowCheck at h
  dsimp only at h
  split at h
  · rename_i hsum
    split at hsum
    · cases hsum
      cases h
      exact .inl rfl
    · cases hsum
  · split at h
    · rename_i hsend
      cases h
      exact .inr (maybeSendConnWindowUpdate_error hsend)
    · cases h

/-! ### Streams -/

namespace QuicStreamState

open QuicStreamLike

/-- How many bytes of the stream have been read. -/
def readSize (s : QuicStreamState) : Nat :=
  s.finalReadOffset.elim s.currentReadOffset (min s.currentReadOffset)

/-- What holds of a stream between calls. -/
structure Ok (s : QuicStreamState) : Prop where
  normal : Segment.Normal s.currentReadOffset (segs s.readBuffer)
  covered_lt : ∀ i, Segment.Covered (segs s.readBuffer) i → i < s.maxOffsetObserved
  read_le : s.finalReadOffset = none → s.currentReadOffset ≤ s.maxOffsetObserved
  final_eq : ∀ F, s.finalReadOffset = some F →
    s.maxOffsetObserved = F ∧ s.currentReadOffset ≤ F + 1
  limit : s.maxOffsetObserved ≤ s.flowControlState.advertisedMaxOffset

theorem ok_new (c : RecvConn) (id : StreamId) : (QuicStreamState.new c id).Ok where
  normal := ⟨.nil, nofun, nofun⟩
  covered_lt := by
    rintro i ⟨b, hb, -⟩
    cases hb
  read_le := fun _ => Nat.le_refl 0
  final_eq := nofun
  limit := Nat.zero_le _

/-- It says nothing about the states of the stream. -/
theorem Ok.congr (h : s.Ok) (hlike : s'.toQuicStreamLike = s.toQuicStreamLike)
    (hflow : s'.flowControlState = s.flowControlState) : s'.Ok := by
  obtain ⟨hnormal, hcovered, hread, hfinal, hlimit⟩ := h
  rw [← hlike] at hnormal hcovered hread hfinal hlimit
  rw [← hflow] at hlimit
  exact ⟨hnormal, hcovered, hread, hfinal, hlimit⟩

theorem Ok.withoutBuffer (h : s.Ok) : Ok { s with readBuffer := [] } := by
  refine ⟨⟨.nil, nofun, nofun⟩, ?_, h.read_le, h.final_eq, h.limit⟩
  rintro i ⟨b, hb, -⟩
  cases hb

theorem readSize_le_current (s : QuicStreamState) : s.readSize ≤ s.currentReadOffset := by
  unfold readSize
  cases s.finalReadOffset with
  | none => exact Nat.le_refl _
  | some F => exact Nat.min_le_left _ _

theorem Ok.readSize_le (h : s.Ok) : s.readSize ≤ s.maxOffsetObserved := by
  unfold readSize
  cases hfinal : s.finalReadOffset with
  | none => exact h.read_le hfinal
  | some F =>
    have := (h.final_eq F hfinal).1
    simp only [Option.elim]
    omega

/-! ### Calls -/

/-- How a call may change a stream and the connection. -/
structure Accounted (s s' : QuicStreamState) (c c' : RecvConn) : Prop where
  id : s'.id = s.id
  ok : s'.Ok
  observed : c'.flowControlState.sumMaxObservedOffset + s.maxOffsetObserved =
    c.flowControlState.sumMaxObservedOffset + s'.maxOffsetObserved
  read : c'.flowControlState.sumCurReadOffset + s.readSize =
    c.flowControlState.sumCurReadOffset + s'.readSize
  streamLimit : s.flowControlState.advertisedMaxOffset ≤ s'.flowControlState.advertisedMaxOffset
  connLimit : c'.flowControlState.advertisedMaxOffset = c.flowControlState.advertisedMaxOffset
  within : c.flowControlState.sumMaxObservedOffset ≤ c.flowControlState.advertisedMaxOffset →
    c'.flowControlState.sumMaxObservedOffset ≤ c.flowControlState.advertisedMaxOffset

theorem Accounted.refl (h : s.Ok) : Accounted s s c c :=
  ⟨rfl, h, rfl, rfl, Nat.le_refl _, rfl, fun hc => hc⟩

/-- An accepted final size is the largest offset observed, and leaves the number of bytes
read as it is. -/
theorem Ok.checkFinalOffset {buffer : StreamBuffer} {final : Option Nat} (hs : s.Ok)
    (h : s.toQuicStreamLike.checkFinalOffset buffer = .ok final) :
    (final = none → s.currentReadOffset ≤ max s.maxOffsetObserved buffer.endOffset) ∧
      (∀ F, final = some F →
        max s.maxOffsetObserved buffer.endOffset = F ∧ s.currentReadOffset ≤ F + 1) ∧
      final.elim s.currentReadOffset (min s.currentReadOffset) = s.readSize := by
  unfold readSize
  rcases checkFinalOffset_ok h with ⟨-, rfl, hmax, hfinal⟩ | ⟨-, rfl, hfinal⟩
  · refine ⟨nofun, fun F hF => ?_, ?_⟩
    · cases hF
      refine ⟨Nat.max_eq_right hmax, ?_⟩
      cases hold : s.finalReadOffset with
      | none =>
        have := hs.read_le hold
        omega
      | some F =>
        have := (hs.final_eq F hold).2
        have := hfinal F hold
        omega
    · cases hold : s.finalReadOffset with
      | none =>
        have := hs.read_le hold
        simp only [Option.elim]
        omega
      | some F => simp only [Option.elim, hfinal F hold]
  · refine ⟨fun hnone => ?_, fun F hF => ?_, rfl⟩
    · have := hs.read_le hnone
      omega
    · obtain ⟨h1, h2⟩ := hs.final_eq F hF
      have := hfinal F hF
      exact ⟨by omega, h2⟩

theorem appendDataToReadBuffer_accounted {buffer : StreamBuffer} (hs : s.Ok)
    (h : s.appendDataToReadBuffer c buffer = .ok ((), s', c')) : Accounted s s' c c' := by
  unfold appendDataToReadBuffer at h
  split at h
  · cases h
  · rename_i like c'' happend
    cases h
    rcases appendDataToReadBufferCommon_ok happend with ⟨-, -, rfl, rfl⟩ | hbuffer
    · exact .refl hs
    · obtain ⟨final, hfinal, hvisit, rfl⟩ := hbuffer
      obtain ⟨hlimit, hconn, rfl⟩ := updateFlowControlOnStreamData_ok hvisit
      obtain ⟨hnone, hsome, hread⟩ := hs.checkFinalOffset hfinal
      obtain ⟨readBuffer, heq, hnormal, hcovered, -⟩ := @insertUnread_spec buffer
        { s.toQuicStreamLike with
          finalReadOffset := final
          maxOffsetObserved := max s.maxOffsetObserved buffer.endOffset } [] hs.normal
      rw [heq]
      have hstream := hs.limit
      refine ⟨rfl, ⟨hnormal, fun i hi => ?_, hnone, hsome, ?_⟩, ?_, ?_, Nat.le_refl _,
        rfl, fun _ => hconn⟩
      · change i < max s.maxOffsetObserved buffer.endOffset
        rcases (hcovered i).mp hi with ⟨-, -, hlt⟩ | hold
        · rw [buffer.stop_seg] at hlt
          omega
        · have := hs.covered_lt i hold
          omega
      · change max s.maxOffsetObserved buffer.endOffset ≤ s.flowControlState.advertisedMaxOffset
        omega
      · change _ + (max _ _ - _) + _ = _ + max _ _
        omega
      · change _ = _ + final.elim s.currentReadOffset (min s.currentReadOffset)
        rw [hread]

theorem receiveReadStreamFrameSMHandler_accounted {frame : ReadStreamFrame} (hs : s.Ok)
    (h : s.receiveReadStreamFrameSMHandler c frame = .ok ((), s', c')) : Accounted s s' c c' := by
  unfold receiveReadStreamFrameSMHandler at h
  split at h
  · split at h
    · cases h
    · rename_i happend
      have hacc := appendDataToReadBuffer_accounted hs happend
      split at h
      · cases h
        exact ⟨hacc.id, ⟨hacc.ok.normal, hacc.ok.covered_lt, hacc.ok.read_le, hacc.ok.final_eq,
          hacc.ok.limit⟩, hacc.observed, hacc.read, hacc.streamLimit,
          hacc.connLimit, hacc.within⟩
      · cases h
        exact hacc
  · split at h
    · cases h
    · cases h
      exact .refl hs
  · cases h

/-- A read before the end: it takes what lies ready, up to the amount, and reports the
end when the final size is reached. -/
structure ReadResult (s : QuicStreamState) (c : RecvConn) (amount : Nat) (sinkData : Bool)
    (t : Now) (data : Buf) (eof : Bool) (s' : QuicStreamState) (c' : RecvConn) (n : Nat)
    (readBuffer : List StreamBuffer) : Prop where
  count : n = readable amount (Segment.front s.currentReadOffset (segs s.readBuffer))
  left : segs readBuffer = Segment.advance n s.currentReadOffset (segs s.readBuffer)
  data_eq : data.bytes =
    if sinkData then [] else (Segment.front s.currentReadOffset (segs s.readBuffer)).take n
  update : updateFlowControlOnRead
    { s with readBuffer, currentReadOffset := s.currentReadOffset + n } s.currentReadOffset c t =
      .ok c'
  eof_eq : eof = decide (s.finalReadOffset = some (s.currentReadOffset + n))
  stream_eq : s' = { s with
    readBuffer
    currentReadOffset := s.currentReadOffset + n + (if eof then 1 else 0) }

theorem readOrConsume_spec {amount : Nat} {sinkData : Bool}
    (hnormal : Segment.Normal s.currentReadOffset (segs s.readBuffer)) :
    (∃ F, s.finalReadOffset = some F ∧ F ≤ s.currentReadOffset ∧
        s.readOrConsume c amount sinkData t = .ok ((none, true), { s with
          currentReadOffset := max s.currentReadOffset (F + 1) }, c)) ∨
      ((∀ F, s.finalReadOffset = some F → s.currentReadOffset < F) ∧
        ((∃ e s' c', s.readOrConsume c amount sinkData t = .error (e, s', c') ∧
          (e = .internal "flow control state overflow" ∨ e = .check .flowControlTime)) ∨
        ∃ data eof s' c' n readBuffer,
          s.readOrConsume c amount sinkData t = .ok ((data, eof), s', c') ∧
            ReadResult s c amount sinkData t data eof s' c' n readBuffer)) := by
  unfold readOrConsume
  by_cases hend : s.finalReadOffset.any (s.currentReadOffset ≥ ·)
  · rw [if_pos hend]
    obtain ⟨F, hfinal, hle⟩ : ∃ F, s.finalReadOffset = some F ∧ F ≤ s.currentReadOffset := by
      simpa [Option.any_eq_true] using hend
    refine .inl ⟨F, hfinal, hle, ?_⟩
    by_cases heq : F = s.currentReadOffset
    · rw [← heq, hfinal, if_pos rfl, Nat.max_eq_right (Nat.le_succ _)]
    · have hne : s.finalReadOffset ≠ some s.currentReadOffset := by
        rw [hfinal]
        simpa using heq
      rw [if_neg hne, Nat.max_eq_left (by omega)]
  · rw [if_neg hend]
    refine .inr ⟨fun F hF => ?_, ?_⟩
    · rw [hF] at hend
      simpa using hend
    · obtain ⟨out, hrun, hcur, hleft, hdata⟩ := @readInOrder_spec _ amount
        _ sinkData hnormal
      unfold readDataInOrderFromReadBuffer
      rw [hrun]
      dsimp only
      rw [hcur]
      split
      · rename_i e c' hupdate
        exact .inl ⟨_, _, _, rfl, updateFlowControlOnRead_error hupdate⟩
      · rename_i c' hupdate
        right
        split
        · rename_i heof
          exact ⟨_, _, _, _, _, _, rfl, rfl, hleft, hdata, hupdate, (decide_eq_true heof).symm, rfl⟩
        · rename_i heof
          exact ⟨_, _, _, _, _, _, rfl, rfl, hleft, hdata, hupdate, (decide_eq_false heof).symm,
            rfl⟩

theorem readSize_before (hbefore : ∀ F, s.finalReadOffset = some F → s.currentReadOffset < F) :
    s.readSize = s.currentReadOffset := by
  unfold readSize
  cases hfinal : s.finalReadOffset with
  | none => rfl
  | some F => exact Nat.min_eq_left (Nat.le_of_lt (hbefore F hfinal))

section Result

variable {amount n : Nat} {sinkData eof : Bool} {data : Buf} {readBuffer : List StreamBuffer}

theorem ReadResult.count_le (h : ReadResult s c amount sinkData t data eof s' c' n readBuffer) :
    n ≤ (Segment.front s.currentReadOffset (segs s.readBuffer)).length := by
  rw [h.count]
  exact Nat.min_le_left _ _

/-- The positions that were in the read buffer have been read, or still are there. -/
theorem ReadResult.covered (hs : s.Ok)
    (h : ReadResult s c amount sinkData t data eof s' c' n readBuffer) (i : Nat) :
    Segment.Covered (segs s.readBuffer) i ↔
      (s.currentReadOffset ≤ i ∧ i < s.currentReadOffset + n) ∨
        Segment.Covered (segs readBuffer) i := by
  have hcovered := Segment.covered_advance (i := i) hs.normal h.count_le
  rw [← h.left] at hcovered
  exact hcovered

/-- Nothing is read that was not observed. -/
theorem ReadResult.read_le (hs : s.Ok)
    (hbefore : ∀ F, s.finalReadOffset = some F → s.currentReadOffset < F)
    (h : ReadResult s c amount sinkData t data eof s' c' n readBuffer) :
    s.currentReadOffset + n ≤ s.maxOffsetObserved := by
  by_cases hzero : n = 0
  · cases hfinal : s.finalReadOffset with
    | none =>
      have := hs.read_le hfinal
      omega
    | some F =>
      have h1 := hbefore F hfinal
      have h2 := (hs.final_eq F hfinal).1
      omega
  · have hlast := (h.covered hs (s.currentReadOffset + n - 1)).mpr (.inl (by omega))
    have := hs.covered_lt _ hlast
    omega

theorem ReadResult.readSize_eq (hs : s.Ok)
    (hbefore : ∀ F, s.finalReadOffset = some F → s.currentReadOffset < F)
    (h : ReadResult s c amount sinkData t data eof s' c' n readBuffer) :
    s'.readSize = s.currentReadOffset + n := by
  have hle := h.read_le hs hbefore
  obtain ⟨-, -, -, -, heof, rfl⟩ := h
  unfold readSize
  cases hfinal : s.finalReadOffset with
  | none => simp [heof, hfinal]
  | some F =>
    have h1 := (hs.final_eq F hfinal).1
    by_cases hF : F = s.currentReadOffset + n
    · simp [heof, hfinal, hF]
    · simp only [heof, hfinal, Option.some.injEq, hF, decide_false, Option.elim,
        Bool.false_eq_true, if_false, Nat.add_zero]
      exact Nat.min_eq_left (by omega)

/-- The counters after a read before the end. -/
theorem ReadResult.accounted (hs : s.Ok)
    (hbefore : ∀ F, s.finalReadOffset = some F → s.currentReadOffset < F)
    (h : ReadResult s c amount sinkData t data eof s' c' n readBuffer) :
    Accounted s s' c c' := by
  have result := h
  have hn := h.count_le
  have hcovered := h.covered hs
  have hread := h.readSize_eq hs hbefore
  obtain ⟨-, hleft, -, hupdate, heof, rfl⟩ := h
  have hnormal := Segment.normal_advance hs.normal hn
  rw [← hleft] at hnormal
  have hcounters := updateFlowControlOnRead_ok hupdate
  simp only [RecvConn.counters, Prod.mk.injEq, Nat.add_sub_cancel_left] at hcounters
  obtain ⟨hmax, hcur, hadv⟩ := hcounters
  have hle := result.read_le hs hbefore
  have hcovered_lt : ∀ i, Segment.Covered (segs readBuffer) i → i < s.maxOffsetObserved :=
    fun i hi => hs.covered_lt i ((hcovered i).mpr (.inr hi))
  refine ⟨rfl, ⟨?_, hcovered_lt, fun hnone => ?_, fun F hF => ?_, hs.limit⟩, ?_, ?_,
    Nat.le_refl _, hadv, fun hc => hmax ▸ hc⟩
  · by_cases hend : eof
    · -- The last byte has been read, so nothing is left.
      have hF := (hs.final_eq _ (of_decide_eq_true (heof ▸ hend))).1
      have hnil := hnormal.eq_nil fun i hi => hF ▸ hcovered_lt i hi
      rw [hnil]
      exact ⟨.nil, nofun, nofun⟩
    · simpa [hend] using hnormal
  · have hnot : eof = false := by simp [heof, show s.finalReadOffset = none from hnone]
    simpa [hnot] using hle
  · obtain ⟨h1, -⟩ := hs.final_eq F hF
    refine ⟨h1, ?_⟩
    cases eof <;> simp <;> omega
  · exact congrArg (· + s.maxOffsetObserved) hmax
  · rw [hcur, readSize_before hbefore, hread]
    omega

end Result

theorem readOrConsume_accounted {amount : Nat} {sinkData : Bool} {out : Buf × Bool} (hs : s.Ok)
    (h : s.readOrConsume c amount sinkData t = .ok (out, s', c')) : Accounted s s' c c' := by
  rcases @readOrConsume_spec c _ t amount sinkData hs.normal
    with ⟨F, hfinal, hle, heq⟩ | ⟨hbefore, ⟨e, s'', c'', heq, -⟩ |
      ⟨data, eof, s'', c'', n, readBuffer, heq, hread⟩⟩
  · rw [heq] at h
    cases h
    obtain ⟨hmax, hcur⟩ := hs.final_eq F hfinal
    have hnil : segs s.readBuffer = [] := hs.normal.eq_nil fun i hi => by
      have := hs.covered_lt i hi
      omega
    refine ⟨rfl, ⟨?_, hs.covered_lt, fun hnone => ?_, fun F' hF' => ?_, hs.limit⟩,
      rfl, ?_, Nat.le_refl _, rfl, fun hc => hc⟩
    · rw [hnil]
      exact ⟨.nil, nofun, nofun⟩
    · rw [hfinal] at hnone
      cases hnone
    · rw [hfinal] at hF'
      cases hF'
      exact ⟨hmax, Nat.max_le.mpr ⟨hcur, Nat.le_refl _⟩⟩
    · unfold readSize
      simp only [hfinal, Option.elim]
      omega
  · rw [heq] at h
    cases h
  · rw [heq] at h
    cases h
    exact hread.accounted hs hbefore

theorem readDataFromQuicStream_accounted {amount : Nat} {out : Buf × Bool} (hs : s.Ok)
    (h : s.readDataFromQuicStream c amount t = .ok (out, s', c')) : Accounted s s' c c' :=
  readOrConsume_accounted hs h

theorem consumeDataFromQuicStream_accounted {amount : Nat} (hs : s.Ok)
    (h : s.consumeDataFromQuicStream c amount t = .ok ((), s', c')) : Accounted s s' c c' := by
  unfold consumeDataFromQuicStream at h
  split at h
  · cases h
  · rename_i hread
    cases h
    exact readOrConsume_accounted hs hread

/-- A reset counts as if everything up to the final size had arrived and been read. -/
theorem onResetQuicStream_accounted {frame : RstStreamFrame} (hs : s.Ok)
    (h : s.onResetQuicStream c frame t = .ok ((), s', c')) : Accounted s s' c c' := by
  unfold onResetQuicStream at h
  dsimp only at h
  split at h
  · cases h
  · rename_i hfinal
    have hfinal : ∀ F, s.finalReadOffset = some F → F = frame.offset := by
      intro F hF
      rw [hF] at hfinal
      simpa [Option.filter] using hfinal
    split at h
    · cases h
    · rename_i hmax
      split at h
      · cases h
      · rename_i c1 hvisit
        obtain ⟨hlimit, hconn, rfl⟩ := updateFlowControlOnStreamData_ok hvisit
        split at h
        · -- The application has read everything, so the final size was known.
          rename_i hread
          cases h
          have hknown : s.finalReadOffset = some frame.offset := by
            cases hF : s.finalReadOffset with
            | none =>
              have := hs.read_le hF
              omega
            | some F => rw [hfinal F hF]
          obtain ⟨hobserved, hcur⟩ := hs.final_eq _ hknown
          refine ⟨rfl, ⟨⟨.nil, nofun, nofun⟩, ?_, nofun, fun F hF => ?_, hs.limit⟩,
            ?_, ?_, Nat.le_refl _, rfl, fun _ => hconn⟩
          · rintro i ⟨b, hb, -⟩
            cases hb
          · cases hF
            exact ⟨hobserved, hcur⟩
          · change _ + (max _ _ - _) + _ = _ + s.maxOffsetObserved
            omega
          · unfold readSize
            rw [hknown]
        · rename_i hread
          split at h
          · cases h
          · rename_i c2 hupdate
            cases h
            have hcounters := updateFlowControlOnRead_ok hupdate
            simp only [RecvConn.counters, Prod.mk.injEq] at hcounters
            obtain ⟨hsum, hsumRead, hadv⟩ := hcounters
            have hsize : s.readSize = s.currentReadOffset := by
              unfold readSize
              cases hF : s.finalReadOffset with
              | none => rfl
              | some F =>
                have := hfinal F hF
                simp only [Option.elim]
                omega
            refine ⟨rfl, ⟨⟨.nil, nofun, nofun⟩, ?_, nofun, fun F hF => ?_, hlimit⟩,
              ?_, ?_, Nat.le_refl _, hadv, fun _ => ?_⟩
            · rintro i ⟨b, hb, -⟩
              cases hb
            · cases hF
              exact ⟨rfl, Nat.le_succ _⟩
            · change _ = _ + frame.offset
              omega
            · rw [hsize, hsumRead]
              change _ = _ + min frame.offset frame.offset
              omega
            · omega

theorem receiveRstStreamSMHandler_accounted {frame : RstStreamFrame} (hs : s.Ok)
    (h : s.receiveRstStreamSMHandler c frame t = .ok ((), s', c')) : Accounted s s' c c' := by
  unfold receiveRstStreamSMHandler at h
  split at h
  · exact onResetQuicStream_accounted hs h
  · have hclosed : Ok { s with recvState := .closed } :=
      ⟨hs.normal, hs.covered_lt, hs.read_le, hs.final_eq, hs.limit⟩
    have hacc := onResetQuicStream_accounted hclosed h
    exact ⟨hacc.id, hacc.ok, hacc.observed, hacc.read, hacc.streamLimit, hacc.connLimit,
      hacc.within⟩
  · cases h

theorem onStreamWindowUpdateSent_accounted {sentTime : Nat} (hs : s.Ok)
    (h : onStreamWindowUpdateSent s c (generateMaxStreamDataFrame s) sentTime = (s', c')) :
    Accounted s s' c c' := by
  cases h
  have hle : s.flowControlState.advertisedMaxOffset ≤ generateMaxStreamDataFrame s :=
    Nat.le_max_right _ _
  exact ⟨rfl, ⟨hs.normal, hs.covered_lt, hs.read_le, hs.final_eq, Nat.le_trans hs.limit hle⟩, rfl,
    rfl, hle, rfl, fun hc => hc⟩

end QuicStreamState

/-! ### The connection -/

namespace Receiver

variable {r r' : Receiver} {id : StreamId} {streams : List QuicStreamState}

/-- All streams ever opened. -/
def opened (r : Receiver) : List QuicStreamState := r.streams ++ r.removed

/-- The sums of the connection are those over all streams ever opened. -/
structure Accounting (r : Receiver) : Prop where
  ids : (r.opened.map (·.id)).Nodup
  ok : ∀ s ∈ r.opened, s.Ok
  observed : r.conn.flowControlState.sumMaxObservedOffset =
    (r.opened.map (·.maxOffsetObserved)).sum
  read : r.conn.flowControlState.sumCurReadOffset = (r.opened.map (·.readSize)).sum
  within : r.conn.flowControlState.sumMaxObservedOffset ≤
    r.conn.flowControlState.advertisedMaxOffset

/-- No limit is smaller in `r'` than in `r`. -/
structure LimitsGrow (r r' : Receiver) : Prop where
  conn : r.conn.flowControlState.advertisedMaxOffset ≤ r'.conn.flowControlState.advertisedMaxOffset
  stream : ∀ s ∈ r.opened, ∃ s' ∈ r'.opened, s'.id = s.id ∧
    s.flowControlState.advertisedMaxOffset ≤ s'.flowControlState.advertisedMaxOffset

theorem LimitsGrow.refl (r : Receiver) : LimitsGrow r r :=
  ⟨Nat.le_refl _, fun s hs => ⟨s, hs, rfl, Nat.le_refl _⟩⟩

theorem accounting_new (nodeType : QuicNodeType) (settings : ReceiveSettings) :
    (new nodeType settings).Accounting :=
  ⟨.nil, nofun, rfl, rfl, Nat.zero_le _⟩

/-- The place of a stream in the list. -/
theorem getStream_eq_some {s : QuicStreamState} (h : getStream streams id = some s) :
    s.id = id ∧ ∃ pre post, streams = pre ++ s :: post ∧
      ∀ s', s'.id = id → setStream s' streams = pre ++ s' :: post := by
  induction streams with
  | nil => cases h
  | cons a rest ih =>
    rw [getStream, List.find?_cons] at h
    split at h
    · rename_i ha
      cases h
      have ha : s.id = id := beq_iff_eq.mp ha
      refine ⟨ha, [], rest, rfl, fun s' hs' => ?_⟩
      rw [setStream, if_pos (ha.trans hs'.symm), List.nil_append]
    · rename_i ha
      obtain ⟨hid, pre, post, rfl, hset⟩ := ih h
      refine ⟨hid, a :: pre, post, rfl, fun s' hs' => ?_⟩
      have hne : ¬ a.id = s'.id := by
        rw [hs']
        simpa using ha
      rw [setStream, if_neg hne, hset s' hs', List.cons_append]

theorem getStream_setStream_self {s : QuicStreamState} {s' : QuicStreamState}
    (hget : getStream streams id = some s) (hid : s'.id = id) :
    getStream (setStream s' streams) id = some s' := by
  induction streams with
  | nil => cases hget
  | cons a rest ih =>
    rw [getStream, List.find?_cons] at hget
    rw [setStream, hid]
    by_cases ha : a.id = id
    · rw [if_pos ha, getStream, List.find?_cons, beq_iff_eq.mpr hid]
    · have hbeq : (a.id == id) = false := by simpa using ha
      rw [hbeq] at hget
      rw [if_neg ha, getStream, List.find?_cons, hbeq]
      exact ih hget

theorem getStream_setStream_of_ne {s' : QuicStreamState} (hne : s'.id ≠ id) :
    getStream (setStream s' streams) id = getStream streams id := by
  induction streams with
  | nil => rfl
  | cons a rest ih =>
    rw [setStream]
    by_cases ha : a.id = s'.id
    · have h1 : (a.id == id) = false := by simpa [ha] using hne
      have h2 : (s'.id == id) = false := by simpa using hne
      rw [if_pos ha, getStream, getStream, List.find?_cons, List.find?_cons, h1, h2]
    · rw [if_neg ha, getStream, getStream, List.find?_cons, List.find?_cons]
      split
      · rfl
      · exact ih

/-- A call that is accounted for its stream is accounted for the connection. -/
theorem onStream_accounting {α : Type} {f : QuicStreamState → RecvConn → OnStream α} {out : Option α}
    (hf : ∀ s s' c c' a, s.Ok → f s c = .ok (a, s', c') → QuicStreamState.Accounted s s' c c')
    (hr : r.Accounting) (h : r.onStream id f = .ok (out, r')) :
    r'.Accounting ∧ LimitsGrow r r' := by
  unfold onStream at h
  split at h
  · cases h
    exact ⟨hr, .refl r⟩
  · rename_i s hget
    split at h
    · cases h
    · rename_i a s' c' hcall
      cases h
      obtain ⟨hid, pre, post, hstreams, hset⟩ := getStream_eq_some hget
      have hopened : r.opened = pre ++ s :: (post ++ r.removed) := by
        rw [opened, hstreams, List.append_assoc, List.cons_append]
      have hmem : s ∈ r.opened := by simp [hopened]
      have hacc := hf s s' r.conn c' a (hr.ok s hmem) hcall
      have hopened' : opened { r with conn := c', streams := setStream s' r.streams } =
          pre ++ s' :: (post ++ r.removed) := by
        rw [opened, hset s' (hacc.id.trans hid), List.append_assoc, List.cons_append]
      generalize post ++ r.removed = rest at hopened hopened'
      have hids := hr.ids
      have hok := hr.ok
      have hobserved := hr.observed
      have hread := hr.read
      rw [hopened] at hids hok hobserved hread
      simp only [List.map_append, List.map_cons, List.sum_append, List.sum_cons]
        at hids hobserved hread
      have hobserved' := hacc.observed
      have hread' := hacc.read
      refine ⟨⟨?_, fun u hu => ?_, ?_, ?_, ?_⟩, ⟨Nat.le_of_eq hacc.connLimit.symm, fun u hu => ?_⟩⟩
      · rw [hopened', List.map_append, List.map_cons, hacc.id]
        exact hids
      · rw [hopened'] at hu
        rcases List.mem_append.mp hu with hu | hu
        · exact hok u (List.mem_append_left _ hu)
        · rcases List.mem_cons.mp hu with rfl | hu
          · exact hacc.ok
          · exact hok u (List.mem_append_right _ (.tail _ hu))
      · rw [hopened', List.map_append, List.map_cons, List.sum_append, List.sum_cons]
        change c'.flowControlState.sumMaxObservedOffset = _
        omega
      · rw [hopened', List.map_append, List.map_cons, List.sum_append, List.sum_cons]
        change c'.flowControlState.sumCurReadOffset = _
        omega
      · change c'.flowControlState.sumMaxObservedOffset ≤ c'.flowControlState.advertisedMaxOffset
        rw [hacc.connLimit]
        exact hacc.within hr.within
      · rw [hopened] at hu
        rw [hopened']
        rcases List.mem_append.mp hu with hu | hu
        · exact ⟨u, List.mem_append_left _ hu, rfl, Nat.le_refl _⟩
        · rcases List.mem_cons.mp hu with rfl | hu
          · exact ⟨s', List.mem_append_right _ (.head _), hacc.id, hacc.streamLimit⟩
          · exact ⟨u, List.mem_append_right _ (.tail _ hu), rfl, Nat.le_refl _⟩

/-- `map` of the step functions forgets the result. -/
theorem map_snd_eq_ok {α : Type} {x : Except (QuicException × Receiver) (Option α × Receiver)} :
    ((·.2) <$> x) = .ok r' ↔ ∃ out, x = .ok (out, r') := by
  cases x with
  | error e => exact ⟨nofun, nofun⟩
  | ok a =>
    constructor
    · intro h
      cases h
      exact ⟨a.1, rfl⟩
    · rintro ⟨out, h⟩
      cases h
      rfl

/-- A call leaves the streams it is not for alone, and does nothing when its stream does not
exist. -/
theorem onStream_ok {α : Type} {f : QuicStreamState → RecvConn → OnStream α} {out : Option α}
    (h : r.onStream id f = .ok (out, r')) :
    (getStream r.streams id = none ∧ r' = r) ∨
      ∃ s a s' c', getStream r.streams id = some s ∧ f s r.conn = .ok (a, s', c') ∧
        r' = { r with conn := c', streams := setStream s' r.streams } := by
  unfold onStream at h
  split at h
  · rename_i hget
    cases h
    exact .inl ⟨hget, rfl⟩
  · rename_i s hget
    split at h
    · cases h
    · rename_i a s' c' hcall
      cases h
      exact .inr ⟨s, a, s', c', hget, hcall, rfl⟩

/-- A call changes its own stream and no other. -/
theorem onStream_getStream {α : Type} {f : QuicStreamState → RecvConn → OnStream α}
    {i : StreamId} {out : Option α}
    (hf : ∀ s s' c c' a, s.Ok → f s c = .ok (a, s', c') → QuicStreamState.Accounted s s' c c')
    (hr : r.Accounting) (h : r.onStream i f = .ok (out, r')) :
    (i ≠ id → getStream r'.streams id = getStream r.streams id) ∧
      (getStream r.streams i = none → r' = r) ∧
      ∀ s, getStream r.streams i = some s →
        ∃ a s' c', f s r.conn = .ok (a, s', c') ∧ getStream r'.streams i = some s' := by
  rcases onStream_ok h with ⟨hget, rfl⟩ | ⟨s, a, s', c', hget, hcall, rfl⟩
  · refine ⟨fun _ => rfl, fun _ => rfl, fun s hs => ?_⟩
    rw [hget] at hs
    cases hs
  · obtain ⟨hid, pre, post, hstreams, -⟩ := getStream_eq_some hget
    have hok : s.Ok := hr.ok s (by simp [opened, hstreams])
    have hid' : s'.id = i := (hf s s' _ _ a hok hcall).id.trans hid
    refine ⟨fun hne => getStream_setStream_of_ne (hid'.trans_ne hne), fun hnone => ?_,
      fun u hu => ?_⟩
    · rw [hget] at hnone
      cases hnone
    · rw [hget] at hu
      cases hu
      exact ⟨a, s', c', hcall, getStream_setStream_self hget hid'⟩

theorem opened_removeStream_perm (r : Receiver) (id : StreamId) :
    (opened { r with
      streams := r.streams.filter (·.id != id)
      removed := r.removed ++ r.streams.filter (·.id == id) }).Perm r.opened := by
  have hsplit := List.filter_append_perm (fun s : QuicStreamState => s.id != id) r.streams
  simp only [bne, Bool.not_not] at hsplit
  calc
    _ = r.streams.filter (·.id != id) ++ (r.removed ++ r.streams.filter (·.id == id)) := rfl
    List.Perm _ (r.streams.filter (·.id != id) ++ (r.streams.filter (·.id == id) ++ r.removed)) :=
      List.perm_append_comm.append_left _
    _ = (r.streams.filter (·.id != id) ++ r.streams.filter (·.id == id)) ++ r.removed :=
      (List.append_assoc _ _ _).symm
    List.Perm _ (r.streams ++ r.removed) := hsplit.append_right _

/-- The order of the streams does not matter. -/
theorem Accounting.of_perm (hr : r.Accounting) (hconn : r'.conn = r.conn)
    (hperm : r'.opened.Perm r.opened) : r'.Accounting ∧ LimitsGrow r r' := by
  refine ⟨⟨?_, fun s hs => hr.ok s (hperm.mem_iff.mp hs), ?_, ?_, ?_⟩,
    ⟨Nat.le_of_eq (by rw [hconn]), fun s hs => ⟨s, hperm.mem_iff.mpr hs, rfl, Nat.le_refl _⟩⟩⟩
  · exact (hperm.map _).nodup_iff.mpr hr.ids
  · rw [hconn, (hperm.map _).sum_nat]
    exact hr.observed
  · rw [hconn, (hperm.map _).sum_nat]
    exact hr.read
  · rw [hconn]
    exact hr.within

theorem openStream_accounting (hr : r.Accounting) (hnew : ∀ s ∈ r.opened, s.id ≠ id) :
    Accounting { r with streams := r.streams ++ [.new r.conn id] } ∧
      LimitsGrow r { r with streams := r.streams ++ [.new r.conn id] } := by
  have hperm : (opened { r with streams := r.streams ++ [.new r.conn id] }).Perm
      (.new r.conn id :: r.opened) := by
    rw [opened, List.append_assoc]
    exact List.perm_middle
  refine ⟨⟨?_, fun s hs => ?_, ?_, ?_, hr.within⟩, ⟨Nat.le_refl _, fun s hs => ?_⟩⟩
  · refine (hperm.map _).nodup_iff.mpr (List.nodup_cons.mpr ⟨fun hmem => ?_, hr.ids⟩)
    obtain ⟨s, hs, hid⟩ := List.mem_map.mp hmem
    exact hnew s hs hid
  · rcases List.mem_cons.mp (hperm.mem_iff.mp hs) with rfl | hs
    · exact QuicStreamState.ok_new _ _
    · exact hr.ok s hs
  · rw [(hperm.map _).sum_nat, List.map_cons, List.sum_cons]
    exact hr.observed.trans (Nat.zero_add _).symm
  · rw [(hperm.map _).sum_nat, List.map_cons, List.sum_cons]
    exact hr.read.trans (Nat.zero_add _).symm
  · exact ⟨s, hperm.mem_iff.mpr (.tail _ hs), rfl, Nat.le_refl _⟩

theorem step_accounting (hr : r.Accounting) {e : ReceiverEvent} (h : r.step e = .ok r') :
    r'.Accounting ∧ LimitsGrow r r' := by
  cases e with
  | openStream id =>
    rw [step] at h
    split at h
    · cases h
      exact ⟨hr, .refl r⟩
    · rename_i hnew
      cases h
      refine openStream_accounting hr fun s hs hid => hnew ?_
      exact List.any_eq_true.mpr ⟨s, hs, beq_iff_eq.mpr hid⟩
  | removeStream id =>
    cases h
    exact hr.of_perm rfl (opened_removeStream_perm r id)
  | streamFrame frame =>
    obtain ⟨out, h⟩ := map_snd_eq_ok.mp h
    exact onStream_accounting (fun s s' c c' a hs h =>
      QuicStreamState.receiveReadStreamFrameSMHandler_accounted hs h) hr h
  | rstStream frame t =>
    obtain ⟨out, h⟩ := map_snd_eq_ok.mp h
    exact onStream_accounting (fun s s' c c' a hs h =>
      QuicStreamState.receiveRstStreamSMHandler_accounted hs h) hr h
  | read id amount t =>
    obtain ⟨out, h⟩ := map_snd_eq_ok.mp h
    exact onStream_accounting (fun s s' c c' a hs h =>
      QuicStreamState.readDataFromQuicStream_accounted hs h) hr h
  | consume id amount t =>
    obtain ⟨out, h⟩ := map_snd_eq_ok.mp h
    exact onStream_accounting (fun s s' c c' a hs h =>
      QuicStreamState.consumeDataFromQuicStream_accounted hs h) hr h
  | sendMaxData sentTime =>
    cases h
    have hle : r.conn.flowControlState.advertisedMaxOffset ≤ generateMaxDataFrame r.conn :=
      Nat.le_max_right _ _
    exact ⟨⟨hr.ids, hr.ok, hr.observed, hr.read, Nat.le_trans hr.within hle⟩,
      ⟨hle, fun s hs => ⟨s, hs, rfl, Nat.le_refl _⟩⟩⟩
  | sendMaxStreamData id sentTime =>
    obtain ⟨out, h⟩ := map_snd_eq_ok.mp h
    refine onStream_accounting (fun s s' c c' a hs h => ?_) hr h
    cases h
    exact QuicStreamState.onStreamWindowUpdateSent_accounted hs rfl

/-! ### Errors of the read buffer

The read offset never lies behind the first section, so neither the `CHECK` of
`readDataInOrderFromReadBuffer` nor the trimming can fail. -/

/-- Not a failure of the read buffer. -/
def NotReadBuffer (x : QuicException) : Prop := x ≠ .check .readOffset ∧ x ≠ .underflow

theorem updateFlowControlOnStreamData_error {id : StreamId} {c : RecvConn}
    {advertised previous endOffset : Nat} {x : QuicException}
    (h : updateFlowControlOnStreamData id advertised previous endOffset c = .error x) :
    NotReadBuffer x := by
  rw [updateFlowControlOnStreamData_eq] at h
  split at h
  · cases h
    exact ⟨nofun, nofun⟩
  · split at h
    · cases h
      exact ⟨nofun, nofun⟩
    · split at h
      · cases h
        exact ⟨nofun, nofun⟩
      · cases h

theorem checkFinalOffset_error {s : QuicStreamLike} {buffer : StreamBuffer} {x : QuicException}
    (h : s.checkFinalOffset buffer = .error x) : NotReadBuffer x := by
  unfold QuicStreamLike.checkFinalOffset at h
  repeat' split at h
  all_goals first
    | cases h
      exact ⟨nofun, nofun⟩
    | cases h

theorem receiveReadStreamFrameSMHandler_error {s s' : QuicStreamState} {c c' : RecvConn}
    {frame : ReadStreamFrame} {x : QuicException}
    (h : s.receiveReadStreamFrameSMHandler c frame = .error (x, s', c')) : NotReadBuffer x := by
  unfold QuicStreamState.receiveReadStreamFrameSMHandler QuicStreamState.appendDataToReadBuffer
    QuicStreamLike.appendDataToReadBufferCommon at h
  split at h
  · split at h
    · rename_i happend
      cases h
      split at happend
      · rename_i hcommon
        cases happend
        split at hcommon
        · cases hcommon
        · split at hcommon
          · rename_i hfinal
            cases hcommon
            exact checkFinalOffset_error hfinal
          · dsimp only at hcommon
            split at hcommon
            · rename_i hvisit
              cases hcommon
              exact updateFlowControlOnStreamData_error hvisit
            · cases hcommon
      · cases happend
    · split at h <;> cases h
  · split at h
    · cases h
      exact ⟨nofun, nofun⟩
    · cases h
  · cases h
    exact ⟨nofun, nofun⟩

/-- An overflow or a clock that stood still. -/
theorem NotReadBuffer.of_read {x : QuicException}
    (h : x = .internal "flow control state overflow" ∨ x = .check .flowControlTime) :
    NotReadBuffer x := by
  rcases h with rfl | rfl <;> exact ⟨nofun, nofun⟩

theorem onResetQuicStream_error {s s' : QuicStreamState} {c c' : RecvConn}
    {frame : RstStreamFrame} {t : Now} {x : QuicException}
    (h : s.onResetQuicStream c frame t = .error (x, s', c')) : NotReadBuffer x := by
  unfold QuicStreamState.onResetQuicStream at h
  dsimp only at h
  split at h
  · cases h
    exact ⟨nofun, nofun⟩
  · split at h
    · cases h
      exact ⟨nofun, nofun⟩
    · split at h
      · rename_i hvisit
        cases h
        exact updateFlowControlOnStreamData_error hvisit
      · split at h
        · cases h
        · split at h
          · rename_i hread
            cases h
            exact .of_read (updateFlowControlOnRead_error hread)
          · cases h

theorem receiveRstStreamSMHandler_error {s s' : QuicStreamState} {c c' : RecvConn}
    {frame : RstStreamFrame} {t : Now} {x : QuicException}
    (h : s.receiveRstStreamSMHandler c frame t = .error (x, s', c')) : NotReadBuffer x := by
  unfold QuicStreamState.receiveRstStreamSMHandler at h
  split at h
  · exact onResetQuicStream_error h
  · exact onResetQuicStream_error h
  · cases h
    exact ⟨nofun, nofun⟩

theorem readOrConsume_error {s s' : QuicStreamState} {c c' : RecvConn} {amount : Nat}
    {sinkData : Bool} {t : Now} {x : QuicException} (hs : s.Ok)
    (h : s.readOrConsume c amount sinkData t = .error (x, s', c')) : NotReadBuffer x := by
  rcases @QuicStreamState.readOrConsume_spec c _ t amount
    sinkData hs.normal with ⟨F, -, -, heq⟩ | ⟨-, ⟨e, s'', c'', heq, hx⟩ |
      ⟨data, eof, s'', c'', n, readBuffer, heq, -⟩⟩
  · rw [heq] at h
    cases h
  · rw [heq] at h
    cases h
    exact .of_read hx
  · rw [heq] at h
    cases h

theorem onStream_eq_error {α : Type} {f : QuicStreamState → RecvConn → OnStream α}
    {x : QuicException} (h : (·.2) <$> r.onStream id f = .error (x, r')) :
    ∃ s s' c', getStream r.streams id = some s ∧ f s r.conn = .error (x, s', c') := by
  unfold onStream at h
  split at h
  · cases h
  · rename_i s hget
    split at h
    · rename_i hcall
      cases h
      exact ⟨s, _, _, hget, hcall⟩
    · cases h

theorem ok_of_getStream {s : QuicStreamState} (hr : r.Accounting)
    (hget : getStream r.streams id = some s) : s.Ok := by
  obtain ⟨-, pre, post, hstreams, -⟩ := getStream_eq_some hget
  exact hr.ok s (by simp [opened, hstreams])

theorem step_error (hr : r.Accounting) {e : ReceiverEvent} {x : QuicException}
    (h : r.step e = .error (x, r')) : NotReadBuffer x := by
  cases e with
  | openStream id =>
    rw [step] at h
    split at h <;> cases h
  | removeStream id => cases h
  | streamFrame frame =>
    obtain ⟨s, s', c', hget, hcall⟩ := onStream_eq_error h
    exact receiveReadStreamFrameSMHandler_error hcall
  | rstStream frame t =>
    obtain ⟨s, s', c', hget, hcall⟩ := onStream_eq_error h
    exact receiveRstStreamSMHandler_error hcall
  | read id amount t =>
    obtain ⟨s, s', c', hget, hcall⟩ := onStream_eq_error h
    exact readOrConsume_error (ok_of_getStream hr hget) hcall
  | consume id amount t =>
    obtain ⟨s, s', c', hget, hcall⟩ := onStream_eq_error h
    unfold QuicStreamState.consumeDataFromQuicStream at hcall
    split at hcall
    · rename_i hread
      cases hcall
      exact readOrConsume_error (ok_of_getStream hr hget) hread
    · cases hcall
  | sendMaxData sentTime => cases h
  | sendMaxStreamData id sentTime =>
    obtain ⟨s, s', c', hget, hcall⟩ := onStream_eq_error h
    cases hcall

/-! ### Rejection -/

/-- The stream, the end and the FIN bit of a frame that has an end. -/
def frameEnd : ReceiverEvent → Option (StreamId × Nat × Bool)
  | .streamFrame frame => some (frame.streamId, frame.offset + frame.data.bytes.length, frame.fin)
  | .rstStream frame _ => some (frame.streamId, frame.offset, true)
  | _ => none

/-- Data for a stream whose receive side is closed is discarded, and an empty frame
without FIN says nothing. -/
def Ignored (s : QuicStreamState) : ReceiverEvent → Prop
  | .streamFrame frame =>
      s.recvState = .closed ∨ (frame.fin = false ∧ frame.data.bytes.length = 0)
  | _ => False

def ContradictsFinalSize (s : QuicStreamState) (endOffset : Nat) (fin : Bool) : Bool :=
  (s.finalReadOffset.any fun final => if fin then final != endOffset else final < endOffset) ||
    (fin && s.maxOffsetObserved > endOffset)

/-- How far a frame moves the largest offset observed. -/
def advanceBy (s : QuicStreamState) (endOffset : Nat) : Nat :=
  max s.maxOffsetObserved endOffset - s.maxOffsetObserved

/-- The frame would exceed the limit of the stream or of the connection. -/
def Exceeds (s : QuicStreamState) (c : RecvConn) (endOffset : Nat) : Prop :=
  s.flowControlState.advertisedMaxOffset < endOffset ∨
    c.flowControlState.advertisedMaxOffset <
      c.flowControlState.sumMaxObservedOffset + advanceBy s endOffset

/-- The frame respects the limit of the stream, and the sum leaves 64 bits. -/
def Overflows (s : QuicStreamState) (c : RecvConn) (endOffset : Nat) : Prop :=
  endOffset ≤ s.flowControlState.advertisedMaxOffset ∧
    c.flowControlState.sumMaxObservedOffset > 2 ^ 64 - 1 - advanceBy s endOffset

/-- The error code for a frame that exceeds a limit. -/
def rejectionCode (s : QuicStreamState) (endOffset : Nat) (fin : Bool) : TransportErrorCode :=
  if s.recvState = .invalid then .streamStateError
  else if ContradictsFinalSize s endOffset fin then .finalSizeError
  else .flowControlError

/-- The counters of a stream. -/
def streamCounters (s : QuicStreamState) : Nat × Nat × Nat × Nat :=
  (s.id, s.maxOffsetObserved, s.currentReadOffset, s.flowControlState.advertisedMaxOffset)

def SameCounters (r r' : Receiver) : Prop :=
  r'.conn = r.conn ∧ r'.opened.map streamCounters = r.opened.map streamCounters

theorem updateFlowControlOnStreamData_exceeds {s : QuicStreamState} {c : RecvConn}
    {endOffset : Nat} (h : Exceeds s c endOffset) :
    ∃ x, updateFlowControlOnStreamData s.id s.flowControlState.advertisedMaxOffset
        s.maxOffsetObserved endOffset c = .error x ∧
      (x.code = some .flowControlError ∨ Overflows s c endOffset ∧
        x = .internal "flow control state overflow") := by
  rw [updateFlowControlOnStreamData_eq]
  split
  · exact ⟨_, rfl, .inl rfl⟩
  · rename_i hstream
    split
    · rename_i hover
      exact ⟨_, rfl, .inr ⟨⟨Nat.le_of_not_lt hstream, hover⟩, rfl⟩⟩
    · split
      · exact ⟨_, rfl, .inl rfl⟩
      · rename_i hconn
        rcases h with h | h
        · exact absurd h hstream
        · exact absurd h hconn

theorem checkFinalOffset_contradicts {s : QuicStreamState} {buffer : StreamBuffer} :
    (ContradictsFinalSize s buffer.endOffset buffer.eof = true →
      ∃ x, s.toQuicStreamLike.checkFinalOffset buffer = .error x ∧
        x.code = some .finalSizeError) ∧
    (ContradictsFinalSize s buffer.endOffset buffer.eof = false →
      ∃ final, s.toQuicStreamLike.checkFinalOffset buffer = .ok final) := by
  unfold ContradictsFinalSize QuicStreamLike.checkFinalOffset
  cases hfinal : s.finalReadOffset with
  | none =>
    cases heof : buffer.eof with
    | true =>
      by_cases hmax : s.maxOffsetObserved > buffer.endOffset
      · simp [hmax, QuicException.code]
      · simp [hmax]
    | false => simp
  | some F =>
    cases heof : buffer.eof with
    | true =>
      by_cases hF : F = buffer.endOffset
      · by_cases hmax : s.maxOffsetObserved > buffer.endOffset
        · simp [hF, hmax, QuicException.code]
        · simp [hF, hmax]
      · simp [hF, QuicException.code]
    | false =>
      by_cases hF : F < buffer.endOffset
      · simp [hF, QuicException.code]
      · simp [hF]

/-- How a frame that exceeds a limit is answered. -/
def Rejected (s : QuicStreamState) (c : RecvConn) (endOffset : Nat) (fin : Bool)
    (x : QuicException) : Prop :=
  x.code = some (rejectionCode s endOffset fin) ∨
    Overflows s c endOffset ∧ x = .internal "flow control state overflow"

theorem receiveReadStreamFrameSMHandler_exceeds {s : QuicStreamState} {c : RecvConn}
    {frame : ReadStreamFrame} (hnot : ¬ Ignored s (.streamFrame frame))
    (hexceeds : Exceeds s c (frame.offset + frame.data.bytes.length)) :
    ∃ x s', s.receiveReadStreamFrameSMHandler c frame = .error (x, s', c) ∧
      streamCounters s' = streamCounters s ∧
      Rejected s c (frame.offset + frame.data.bytes.length) frame.fin x := by
  unfold QuicStreamState.receiveReadStreamFrameSMHandler
  simp only [Ignored, not_or, not_and] at hnot
  cases hstate : s.recvState with
  | closed => exact absurd hstate hnot.1
  | invalid =>
    exact ⟨_, _, rfl, rfl, .inl (by rw [rejectionCode, if_pos hstate]; rfl)⟩
  | «open» =>
    have hopen : s.recvState ≠ .invalid := by simp [hstate]
    obtain ⟨hcontra, hfine⟩ := @checkFinalOffset_contradicts s
      (.new frame.data frame.offset frame.fin)
    have hnonempty : ¬ (¬ frame.fin = true ∧
        (StreamBuffer.new frame.data frame.offset frame.fin).data.chainLength = 0) := by
      rintro ⟨hfin, hempty⟩
      exact hnot.2 (by simpa using hfin) hempty
    dsimp only
    unfold QuicStreamState.appendDataToReadBuffer QuicStreamLike.appendDataToReadBufferCommon
    have heof : (StreamBuffer.new frame.data frame.offset frame.fin).eof = frame.fin := rfl
    rw [heof, if_neg hnonempty]
    cases hc : ContradictsFinalSize s (frame.offset + frame.data.bytes.length) frame.fin with
    | true =>
      obtain ⟨x, hx, hcode⟩ := hcontra hc
      rw [hx]
      exact ⟨x, s, rfl, rfl, .inl (by rw [rejectionCode, if_neg hopen, if_pos hc, hcode])⟩
    | false =>
      obtain ⟨final, hx⟩ := hfine hc
      obtain ⟨x, hvisit, hcode⟩ := updateFlowControlOnStreamData_exceeds hexceeds
      have hend : (StreamBuffer.new frame.data frame.offset frame.fin).endOffset =
          frame.offset + frame.data.bytes.length := rfl
      rw [hx, hend]
      dsimp only
      rw [hvisit]
      refine ⟨x, _, rfl, rfl, hcode.imp_left fun h => ?_⟩
      rw [h, rejectionCode, if_neg hopen, hc]
      rfl

theorem onResetQuicStream_exceeds {s : QuicStreamState} {c : RecvConn} {frame : RstStreamFrame}
    {t : Now} (hstate : s.recvState ≠ .invalid) (hexceeds : Exceeds s c frame.offset) :
    ∃ x, s.onResetQuicStream c frame t = .error (x, s, c) ∧ Rejected s c frame.offset true x := by
  have hcode : ∀ x : QuicException, x.code = some .finalSizeError →
      ContradictsFinalSize s frame.offset true = true → Rejected s c frame.offset true x := by
    intro x hx hcontra
    exact .inl (by rw [rejectionCode, if_neg hstate, if_pos hcontra, hx])
  unfold QuicStreamState.onResetQuicStream
  split
  · rename_i final hfilter
    have hfinal : s.finalReadOffset = some final ∧ final ≠ frame.offset := by
      simpa [Option.filter_eq_some_iff] using hfilter
    refine ⟨_, rfl, hcode _ rfl ?_⟩
    simp [ContradictsFinalSize, hfinal.1, hfinal.2]
  · rename_i hfilter
    split
    · rename_i hmax
      refine ⟨_, rfl, hcode _ rfl ?_⟩
      simp [ContradictsFinalSize, hmax]
    · rename_i hmax
      have hcontra : ContradictsFinalSize s frame.offset true = false := by
        have hfinal : ∀ F, s.finalReadOffset = some F → F = frame.offset := by
          intro F hF
          simpa [hF, Option.filter] using hfilter
        cases hF : s.finalReadOffset with
        | none => simp [ContradictsFinalSize, hF, Nat.le_of_not_lt hmax]
        | some F => simp [ContradictsFinalSize, hF, hfinal F hF, Nat.le_of_not_lt hmax]
      obtain ⟨x, hvisit, hx⟩ := updateFlowControlOnStreamData_exceeds hexceeds
      rw [hvisit]
      refine ⟨x, rfl, hx.imp_left fun h => ?_⟩
      rw [h, rejectionCode, if_neg hstate, hcontra]
      rfl

theorem receiveRstStreamSMHandler_exceeds {s : QuicStreamState} {c : RecvConn}
    {frame : RstStreamFrame} {t : Now} (hexceeds : Exceeds s c frame.offset) :
    ∃ x s', s.receiveRstStreamSMHandler c frame t = .error (x, s', c) ∧
      streamCounters s' = streamCounters s ∧ Rejected s c frame.offset true x := by
  unfold QuicStreamState.receiveRstStreamSMHandler
  cases hstate : s.recvState with
  | closed =>
    obtain ⟨x, hx, hrejected⟩ := onResetQuicStream_exceeds (t := t)
      (by simp [hstate]) hexceeds
    exact ⟨x, s, hx, rfl, hrejected⟩
  | «open» =>
    -- The stream is closed first; the checks do not look at that.
    obtain ⟨x, hx, hrejected⟩ := onResetQuicStream_exceeds (t := t)
      (s := { s with recvState := .closed }) (by simp) hexceeds
    have hclosed : ¬ StreamRecvState.closed = .invalid := by simp
    have hopen : ¬ s.recvState = .invalid := by simp [hstate]
    refine ⟨x, _, hx, rfl, hrejected.imp_left fun h => ?_⟩
    rw [h, rejectionCode, rejectionCode, if_neg hclosed, if_neg hopen]
    rfl
  | invalid => exact ⟨_, s, rfl, rfl, .inl (by rw [rejectionCode, if_pos hstate]; rfl)⟩

theorem onStream_error {α : Type} {f : QuicStreamState → RecvConn → OnStream α}
    {s s' : QuicStreamState} {x : QuicException} (hget : getStream r.streams id = some s)
    (hcall : f s r.conn = .error (x, s', r.conn)) (hsame : streamCounters s' = streamCounters s) :
    ∃ r', r.onStream id f = .error (x, r') ∧ SameCounters r r' := by
  obtain ⟨hid, pre, post, hstreams, hset⟩ := getStream_eq_some hget
  have hid' : s'.id = id := (congrArg Prod.fst hsame).trans hid
  have heq : r.onStream id f = .error (x, { r with streams := setStream s' r.streams }) := by
    simp only [onStream, hget, hcall]
  refine ⟨_, heq, rfl, ?_⟩
  rw [opened, opened, hset s' hid', hstreams]
  simp [hsame]

/-- A frame that exceeds a limit is rejected, and no counter changes. -/
theorem step_rejected {e : ReceiverEvent} {s : QuicStreamState} {endOffset : Nat} {fin : Bool}
    (hframe : frameEnd e = some (id, endOffset, fin)) (hget : getStream r.streams id = some s)
    (hnot : ¬ Ignored s e) (hexceeds : Exceeds s r.conn endOffset) :
    ∃ x r', r.step e = .error (x, r') ∧ SameCounters r r' ∧ Rejected s r.conn endOffset fin x := by
  cases e with
  | streamFrame frame =>
    cases hframe
    obtain ⟨x, s', hcall, hsame, hrejected⟩ :=
      receiveReadStreamFrameSMHandler_exceeds hnot hexceeds
    obtain ⟨r', hstep, hcounters⟩ := onStream_error (f := fun s c =>
      s.receiveReadStreamFrameSMHandler c frame) hget hcall hsame
    exact ⟨x, r', by rw [step, hstep]; rfl, hcounters, hrejected⟩
  | rstStream frame t =>
    cases hframe
    obtain ⟨x, s', hcall, hsame, hrejected⟩ := receiveRstStreamSMHandler_exceeds (t := t) hexceeds
    obtain ⟨r', hstep, hcounters⟩ := onStream_error (f := fun s c =>
      s.receiveRstStreamSMHandler c frame t) hget hcall hsame
    exact ⟨x, r', by rw [step, hstep]; rfl, hcounters, hrejected⟩
  | openStream => cases hframe
  | removeStream => cases hframe
  | read => cases hframe
  | consume => cases hframe
  | sendMaxData => cases hframe
  | sendMaxStreamData => cases hframe

/-! ### Runs -/

theorem LimitsGrow.trans {r'' : Receiver} (h : LimitsGrow r r') (h' : LimitsGrow r' r'') :
    LimitsGrow r r'' := by
  refine ⟨Nat.le_trans h.conn h'.conn, fun s hs => ?_⟩
  obtain ⟨s', hs', hid, hle⟩ := h.stream s hs
  obtain ⟨s'', hs'', hid', hle'⟩ := h'.stream s' hs'
  exact ⟨s'', hs'', hid'.trans hid, Nat.le_trans hle hle'⟩

theorem run_accounting {es : List ReceiverEvent} (hr : r.Accounting)
    (hrun : es.foldlM step r = .ok r') : r'.Accounting ∧ LimitsGrow r r' := by
  refine @run_invariant _ _ _ _ (fun u : Receiver => u.Accounting ∧ LimitsGrow r u) ?_ _ _ _
    ⟨hr, .refl r⟩ hrun
  rintro u e u' ⟨hu, hgrow⟩ hstep
  obtain ⟨hu', hgrow'⟩ := step_accounting hu hstep
  exact ⟨hu', hgrow.trans hgrow'⟩

/-- The sums, their order, and the limits. -/
structure FlowControlled (r : Receiver) : Prop where
  observed : r.conn.flowControlState.sumMaxObservedOffset =
    (r.opened.map (·.maxOffsetObserved)).sum
  read : r.conn.flowControlState.sumCurReadOffset = (r.opened.map (·.readSize)).sum
  read_le : r.conn.flowControlState.sumCurReadOffset ≤ r.conn.flowControlState.sumMaxObservedOffset
  within : r.conn.flowControlState.sumMaxObservedOffset ≤
    r.conn.flowControlState.advertisedMaxOffset
  stream : ∀ s ∈ r.opened, s.maxOffsetObserved ≤ s.flowControlState.advertisedMaxOffset

theorem Accounting.flowControlled (h : r.Accounting) : r.FlowControlled := by
  refine ⟨h.observed, h.read, ?_, h.within, fun s hs => (h.ok s hs).limit⟩
  rw [h.read, h.observed]
  exact List.sum_le_sum fun s hs => (h.ok s hs).readSize_le

/-- The accounting holds after every run, limits grow along every continuation, and a
frame that would exceed a limit is rejected without a trace in the counters. -/
theorem receive_accounting (nodeType : QuicNodeType) (settings : ReceiveSettings)
    {es : List ReceiverEvent} (hrun : es.foldlM step (new nodeType settings) = .ok r) :
    r.FlowControlled ∧
      (∀ (fs : List ReceiverEvent) r', fs.foldlM step r = .ok r' → LimitsGrow r r') ∧
      ∀ e id endOffset fin s, frameEnd e = some (id, endOffset, fin) →
        getStream r.streams id = some s → ¬ Ignored s e → Exceeds s r.conn endOffset →
          ∃ x r', r.step e = .error (x, r') ∧ SameCounters r r' ∧
            Rejected s r.conn endOffset fin x := by
  obtain ⟨hr, -⟩ := run_accounting (accounting_new nodeType settings) hrun
  refine ⟨hr.flowControlled, fun fs r' hfs => (run_accounting hr hfs).2, ?_⟩
  intro e id endOffset fin s hframe hget hnot hexceeds
  exact step_rejected hframe hget hnot hexceeds

/-- All windows are ten bytes. -/
def tenBytes : ReceiveSettings := ⟨10, 10, 10, 10, 2, 2, false⟩

/-- A byte of stream 0. -/
def byteAt (offset : Nat) (fin : Bool) : ReceiverEvent :=
  .streamFrame ⟨0, offset, some (IOBuf.wrapBuffer [7]), fin⟩

theorem receive_accounting_tenBytes :
    ∃ r s, [.openStream 0, byteAt 5 false].foldlM step (new .server tenBytes) = .ok r ∧
      r.FlowControlled ∧ getStream r.streams 0 = some s ∧
      ∃ x r', r.step (byteAt 20 false) = .error (x, r') ∧ SameCounters r r' ∧
        Rejected s r.conn 21 false x := by
  have hrun : [.openStream 0, byteAt 5 false].foldlM step (new .server tenBytes) = .ok _ := rfl
  obtain ⟨hflow, -, hreject⟩ := receive_accounting .server tenBytes hrun
  refine ⟨_, _, hrun, hflow, rfl, hreject (byteAt 20 false) 0 21 false _ rfl rfl ?_ (.inl ?_)⟩
  · rintro (hclosed | ⟨-, hempty⟩)
    · cases hclosed
    · cases hempty
  · decide

/-- Once the final size is known, a frame that would exceed the limit of the stream is
answered with `FINAL_SIZE_ERROR`. -/
theorem receive_accounting_finalSize :
    ∃ r s, [.openStream 0, byteAt 5 true].foldlM step (new .server tenBytes) = .ok r ∧
      getStream r.streams 0 = some s ∧ s.flowControlState.advertisedMaxOffset < 21 ∧
      ∃ x r', r.step (byteAt 20 false) = .error (x, r') ∧ x.code = some .finalSizeError :=
  ⟨_, _, rfl, rfl, by decide, _, _, rfl, rfl⟩

end Receiver

end MasqueQuic
