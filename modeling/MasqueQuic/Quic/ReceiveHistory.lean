/-
One receiving stream and the frames that arrived on it.

`StreamHistory` runs a stream and keeps the frames it has accepted: STREAM frames that came
while the receive side was open, those that came after it was closed, and resets. Other streams
change what the connection keeps for flow control (`others`). The invariant says that what has
been received is what has been read and what lies in the read buffer; in normal form the test of
`isAllDataReceived` on the shape of the buffer then says that nothing is missing.
-/

import MasqueQuic.Quic.ReceiveAccounting

namespace MasqueQuic

open QuicStreamLike (segs)

structure StreamHistory where
  stream : QuicStreamState
  conn : RecvConn
  frames : List ReadStreamFrame
  discarded : List ReadStreamFrame
  resets : List RstStreamFrame
  taken : Bytes

inductive StreamEvent where
  | streamFrame (frame : ReadStreamFrame)
  | rstStream (frame : RstStreamFrame) (t : Now)
  | read (amount : Nat) (t : Now)
  | consume (amount : Nat) (t : Now)
  | sendMaxStreamData (sentTime : Nat)
  | others (flowControlState : ConnectionFlowControlState) (connWindowUpdate : Bool)
      (windowUpdates : List StreamId)

namespace ReadStreamFrame

def endOffset (f : ReadStreamFrame) : Nat := f.offset + f.data.bytes.length

def Covers (f : ReadStreamFrame) (i : Nat) : Prop := f.offset ≤ i ∧ i < f.endOffset

end ReadStreamFrame

namespace StreamHistory

def new (conn : RecvConn) (id : StreamId) : StreamHistory :=
  ⟨.new conn id, conn, [], [], [], []⟩

/-- A STREAM frame has been accepted. -/
def onFrame (h : StreamHistory) (frame : ReadStreamFrame) (s : QuicStreamState) (c : RecvConn) :
    StreamHistory :=
  if h.stream.recvState = .open then
    { h with stream := s, conn := c, frames := h.frames ++ [frame] }
  else { h with stream := s, conn := c, discarded := h.discarded ++ [frame] }

def step (h : StreamHistory) : StreamEvent → Except QuicException StreamHistory
  | .streamFrame frame =>
      match h.stream.receiveReadStreamFrameSMHandler h.conn frame with
      | .error (e, _) => .error e
      | .ok (_, s, c) => .ok (h.onFrame frame s c)
  | .rstStream frame t =>
      match h.stream.receiveRstStreamSMHandler h.conn frame t with
      | .error (e, _) => .error e
      | .ok (_, s, c) => .ok { h with stream := s, conn := c, resets := h.resets ++ [frame] }
  | .read amount t =>
      match h.stream.readDataFromQuicStream h.conn amount t with
      | .error (e, _) => .error e
      | .ok ((data, _), s, c) =>
          .ok { h with stream := s, conn := c, taken := h.taken ++ data.bytes }
  | .consume amount t =>
      match h.stream.consumeDataFromQuicStream h.conn amount t with
      | .error (e, _) => .error e
      | .ok (_, s, c) => .ok { h with stream := s, conn := c }
  | .sendMaxStreamData sentTime =>
      let (s, c) := onStreamWindowUpdateSent h.stream h.conn
        (generateMaxStreamDataFrame h.stream) sentTime
      .ok { h with stream := s, conn := c }
  | .others flowControlState connWindowUpdate windowUpdates =>
      .ok { h with conn := { h.conn with flowControlState, connWindowUpdate, windowUpdates } }

/-- The byte at position `i` arrived while the receive side was open. -/
def Received (h : StreamHistory) (i : Nat) : Prop := ∃ f ∈ h.frames, f.Covers i

/-- A FIN or a reset has announced the final size `F`. -/
def Announced (h : StreamHistory) (F : Nat) : Prop :=
  (∃ f ∈ h.frames, f.fin = true ∧ f.endOffset = F) ∨ ∃ r ∈ h.resets, r.offset = F

end StreamHistory

/-- The frames agree on the final size `F`. -/
structure FinalSizeOf (frames : List ReadStreamFrame) (resets : List RstStreamFrame) (F : Nat) :
    Prop where
  fin : ∀ f ∈ frames, f.fin = true → f.endOffset = F
  data : ∀ f ∈ frames, ∀ i, f.Covers i → i < F
  reset : ∀ r ∈ resets, r.offset = F

/-! ### Calls -/

namespace QuicStreamState

variable {s s' : QuicStreamState} {c c' : RecvConn} {t : Now}

/-- What an accepted section adds to the stream. -/
structure Appended (s s' : QuicStreamState) (frame : ReadStreamFrame) : Prop where
  observed : ∀ i, frame.Covers i → i < s'.maxOffsetObserved
  grows : s.maxOffsetObserved ≤ s'.maxOffsetObserved
  read : s'.readSize = s.readSize
  final : ∀ F, s'.finalReadOffset = some F ↔
    s.finalReadOffset = some F ∨ frame.fin = true ∧ frame.endOffset = F
  covered : ∀ i, Segment.Covered (segs s'.readBuffer) i ↔
    (s.currentReadOffset ≤ i ∧ frame.Covers i) ∨ Segment.Covered (segs s.readBuffer) i
  state : s'.recvState = s.recvState
  current : s'.currentReadOffset = s.currentReadOffset

theorem appendDataToReadBuffer_appended {frame : ReadStreamFrame} (hs : s.Ok)
    (h : s.appendDataToReadBuffer c (.new frame.data frame.offset frame.fin) = .ok ((), s', c')) :
    Appended s s' frame := by
  have hend : (StreamBuffer.new frame.data frame.offset frame.fin).endOffset = frame.endOffset :=
    rfl
  unfold appendDataToReadBuffer at h
  split at h
  · cases h
  · rename_i like c'' happend
    cases h
    rcases QuicStreamLike.appendDataToReadBufferCommon_ok happend with
      ⟨hnofin, hempty, rfl, rfl⟩ | ⟨final, hfinal, -, rfl⟩
    · have hnofin : frame.fin = false := by simpa [StreamBuffer.new] using hnofin
      have hempty : frame.data.bytes.length = 0 := hempty
      have hnone : ∀ i, ¬ frame.Covers i := by
        rintro i ⟨h1, h2⟩
        simp only [ReadStreamFrame.endOffset] at h2
        omega
      refine ⟨fun i hi => absurd hi (hnone i), Nat.le_refl _, rfl, fun F => ?_, fun i => ?_, rfl,
        rfl⟩
      · simp [hnofin]
      · simp [hnone i]
    · obtain ⟨-, -, hread⟩ := hs.checkFinalOffset hfinal
      obtain ⟨readBuffer, heq, -, hcovered, -⟩ := @QuicStreamLike.insertUnread_spec
        (.new frame.data frame.offset frame.fin)
        { s.toQuicStreamLike with
          finalReadOffset := final
          maxOffsetObserved := max s.maxOffsetObserved frame.endOffset } [] hs.normal
      rw [hend, heq]
      refine ⟨fun i hi => Nat.lt_of_lt_of_le hi.2 (Nat.le_max_right _ _), Nat.le_max_left _ _,
        hread, fun F => ?_, hcovered, rfl, rfl⟩
      change final = some F ↔ _
      rcases QuicStreamLike.checkFinalOffset_ok hfinal with
        ⟨heof, rfl, -, hold⟩ | ⟨hneof, rfl, -⟩
      · have heof : frame.fin = true := heof
        rw [hend] at hold ⊢
        simp only [heof, true_and, Option.some.injEq]
        refine ⟨.inr, fun h => ?_⟩
        rcases h with h | h
        · exact (hold F h).symm
        · exact h
      · have hneof : frame.fin = false := by simpa [StreamBuffer.new] using hneof
        simp [hneof]

/-- What a reset that is accepted says, and leaves. -/
structure Reset (s s' : QuicStreamState) (frame : RstStreamFrame) : Prop where
  known : ∀ F, s.finalReadOffset = some F → F = frame.offset
  observed : s.maxOffsetObserved ≤ frame.offset
  final : s'.finalReadOffset = some frame.offset

theorem onResetQuicStream_reset {frame : RstStreamFrame}
    (h : s.onResetQuicStream c frame t = .ok ((), s', c')) :
    Reset s s' frame ∧ s'.recvState = s.recvState := by
  unfold onResetQuicStream at h
  dsimp only at h
  split at h
  · cases h
  · rename_i hfilter
    have hknown : ∀ F, s.finalReadOffset = some F → F = frame.offset := by
      intro F hF
      rw [hF] at hfilter
      simpa [Option.filter] using hfilter
    split at h
    · cases h
    · rename_i hmax
      split at h
      · cases h
      · split at h
        · cases h
          exact ⟨⟨hknown, Nat.le_of_not_lt hmax, rfl⟩, rfl⟩
        · split at h
          · cases h
          · cases h
            exact ⟨⟨hknown, Nat.le_of_not_lt hmax, rfl⟩, rfl⟩

theorem receiveRstStreamSMHandler_reset {frame : RstStreamFrame}
    (h : s.receiveRstStreamSMHandler c frame t = .ok ((), s', c')) :
    Reset s s' frame ∧ s'.recvState = .closed := by
  unfold receiveRstStreamSMHandler at h
  split at h
  · rename_i hclosed
    obtain ⟨hreset, hstate⟩ := onResetQuicStream_reset h
    exact ⟨hreset, hstate.trans hclosed⟩
  · obtain ⟨hreset, hstate⟩ := onResetQuicStream_reset h
    exact ⟨⟨hreset.known, hreset.observed, hreset.final⟩, hstate⟩
  · cases h

/-- A frame is appended while the receive side is open, and discarded once it is closed. -/
theorem receiveReadStreamFrameSMHandler_ok {frame : ReadStreamFrame}
    (h : s.receiveReadStreamFrameSMHandler c frame = .ok ((), s', c')) :
    (s.recvState = .open ∧ ∃ s₁,
        s.appendDataToReadBuffer c (.new frame.data frame.offset frame.fin) = .ok ((), s₁, c') ∧
        s' = if s₁.isAllDataReceived then { s₁ with recvState := .closed } else s₁) ∨
      (s.recvState = .closed ∧ s' = s ∧ c' = c) := by
  unfold receiveReadStreamFrameSMHandler at h
  split at h
  · rename_i hopen
    split at h
    · cases h
    · rename_i s₁ c₁ happend
      refine .inl ⟨hopen, s₁, ?_⟩
      split at h <;> cases h <;> exact ⟨happend, by simp [*]⟩
  · rename_i hclosed
    split at h
    · cases h
    · cases h
      exact .inr ⟨hclosed, rfl, rfl⟩
  · cases h

/-- What a read leaves alone. -/
structure OnlyReads (s s' : QuicStreamState) : Prop where
  state : s'.recvState = s.recvState
  final : s'.finalReadOffset = s.finalReadOffset
  observed : s'.maxOffsetObserved = s.maxOffsetObserved
  unread : ∀ i, (i < s'.readSize ∨ Segment.Covered (segs s'.readBuffer) i) ↔
    (i < s.readSize ∨ Segment.Covered (segs s.readBuffer) i)

theorem readOrConsume_onlyReads {amount : Nat} {sinkData : Bool} {out : Buf × Bool} (hs : s.Ok)
    (h : s.readOrConsume c amount sinkData t = .ok (out, s', c')) : OnlyReads s s' := by
  rcases @readOrConsume_spec c _ t amount sinkData hs.normal
    with ⟨F, hfinal, hle, heq⟩ | ⟨hbefore, ⟨e, s'', c'', heq, -⟩ |
      ⟨data, eof, s'', c'', n, readBuffer, heq, hread⟩⟩
  · rw [heq] at h
    cases h
    refine ⟨rfl, rfl, rfl, fun i => ?_⟩
    have hsize : readSize { s with currentReadOffset := max s.currentReadOffset (F + 1) } =
        s.readSize := by
      unfold readSize
      simp only [hfinal, Option.elim]
      omega
    rw [hsize]
  · rw [heq] at h
    cases h
  · rw [heq] at h
    cases h
    have hsize := hread.readSize_eq hs hbefore
    have hcovered := hread.covered hs
    obtain ⟨-, -, -, -, -, rfl⟩ := hread
    refine ⟨rfl, rfl, rfl, fun i => ?_⟩
    rw [hsize, readSize_before hbefore, hcovered i]
    change _ ∨ Segment.Covered (segs readBuffer) i ↔ _
    by_cases hi : Segment.Covered (segs readBuffer) i
    · simp [hi]
    · simp only [hi, or_false]
      omega

/-- In normal form the test on the shape of the read buffer says that nothing is missing. -/
theorem isAllDataReceived_iff (hs : s.Ok) :
    s.isAllDataReceived = true ↔ ∃ F, s.finalReadOffset = some F ∧
      ∀ i, i < F → i < s.readSize ∨ Segment.Covered (segs s.readBuffer) i := by
  unfold isAllDataReceived
  cases hfinal : s.finalReadOffset with
  | none => simp
  | some F =>
    have hsize : s.readSize = min s.currentReadOffset F := by
      simp only [readSize, hfinal, Option.elim]
    have hobserved := (hs.final_eq F hfinal).1
    rw [hsize]
    by_cases hle : F ≤ s.currentReadOffset
    · simp only [if_pos hle, true_iff]
      exact ⟨F, rfl, fun i hi => .inl (by omega)⟩
    · simp only [if_neg hle, Option.some.injEq, exists_eq_left']
      constructor
      · intro hall i hi
        split at hall
        · rename_i b hbuffer
          simp only [Bool.and_eq_true, beq_iff_eq] at hall
          by_cases hlt : i < s.currentReadOffset
          · exact .inl (by omega)
          · right
            rw [hbuffer]
            refine ⟨b.seg, .head _, ?_, ?_⟩
            · change b.offset ≤ i
              omega
            · rw [b.stop_seg]
              omega
        · cases hall
      · intro hall
        obtain ⟨a, ha, hoffset, hstop⟩ := hs.normal.eq_singleton (n := F) (by omega)
          (fun i h1 h2 => (hall i h2).resolve_left (by omega))
          (fun i hi => hobserved ▸ hs.covered_lt i hi)
        obtain ⟨b, hbuffer, rfl⟩ : ∃ b, s.readBuffer = [b] ∧ b.seg = a := by
          simpa [segs, List.map_eq_cons_iff] using ha
        rw [b.stop_seg] at hstop
        have hoffset : b.offset = s.currentReadOffset := hoffset
        simp [hbuffer, hoffset, hstop]

end QuicStreamState

/-! ### Histories -/

namespace StreamHistory

variable {h h' : StreamHistory} {s : QuicStreamState} {c : RecvConn} {e : StreamEvent}

structure Inv (h : StreamHistory) : Prop where
  ok : h.stream.Ok
  received : h.stream.recvState = .open → ∀ i, h.Received i ↔
    i < h.stream.readSize ∨ Segment.Covered (segs h.stream.readBuffer) i
  observed : ∀ f ∈ h.frames, ∀ i, f.Covers i → i < h.stream.maxOffsetObserved
  final : ∀ F, h.stream.finalReadOffset = some F ↔ h.Announced F
  closed : h.stream.recvState = .closed ↔
    h.resets ≠ [] ∨ ∃ F, h.stream.finalReadOffset = some F ∧ ∀ i, i < F → h.Received i

theorem inv_new (conn : RecvConn) (id : StreamId) : (new conn id).Inv := by
  refine ⟨QuicStreamState.ok_new conn id, fun _ i => ?_, nofun, fun F => ?_, ?_⟩
  · simp [Received, new, QuicStreamState.new, QuicStreamLike.new, QuicStreamState.readSize,
      Segment.Covered]
  · simp [Announced, new, QuicStreamState.new, QuicStreamLike.new]
  · simp only [new, QuicStreamState.new, QuicStreamLike.new]
    split <;> simp

theorem Inv.resets_of_open (hinv : h.Inv) (hopen : h.stream.recvState = .open) :
    h.resets = [] := by
  by_contra hne
  have := hinv.closed.mpr (.inl hne)
  rw [hopen] at this
  cases this

/-- The frames, and what the stream says about them, have not changed. -/
theorem Inv.of_onlyReads (hinv : h.Inv) (hok : s.Ok) (hs : h.stream.OnlyReads s)
    (hframes : h'.frames = h.frames) (hresets : h'.resets = h.resets) (hstream : h'.stream = s) :
    h'.Inv := by
  have hreceived : ∀ i, h'.Received i ↔ h.Received i := fun i => by
    rw [Received, Received, hframes]
  subst hstream
  refine ⟨hok, fun hopen i => ?_, ?_, fun F => ?_, ?_⟩
  · rw [hreceived, hs.unread]
    exact hinv.received (hs.state ▸ hopen) i
  · rw [hframes, hs.observed]
    exact hinv.observed
  · rw [hs.final, hinv.final, Announced, Announced, hframes, hresets]
  · simp only [hs.state, hs.final, hreceived, hresets]
    exact hinv.closed

theorem received_append {frame : ReadStreamFrame} {i : Nat}
    (hframes : h'.frames = h.frames ++ [frame]) :
    h'.Received i ↔ frame.Covers i ∨ h.Received i := by
  simp only [Received, hframes, List.mem_append, List.mem_singleton]
  constructor
  · rintro ⟨f, hf | rfl, hi⟩
    · exact .inr ⟨f, hf, hi⟩
    · exact .inl hi
  · rintro (hi | ⟨f, hf, hi⟩)
    · exact ⟨frame, .inr rfl, hi⟩
    · exact ⟨f, .inl hf, hi⟩

/-- A frame that is appended while the receive side is open. -/
theorem Inv.appended {frame : ReadStreamFrame} (hinv : h.Inv) (hopen : h.stream.recvState = .open)
    (hok : s.Ok) (hs : h.stream.Appended s frame) (hframes : h'.frames = h.frames ++ [frame])
    (hresets : h'.resets = h.resets)
    (hstream : h'.stream = if s.isAllDataReceived then { s with recvState := .closed } else s) :
    h'.Inv := by
  have hnil := hinv.resets_of_open hopen
  have hreceived : ∀ i, h'.Received i ↔
      i < s.readSize ∨ Segment.Covered (segs s.readBuffer) i := by
    intro i
    rw [received_append hframes, hinv.received hopen, hs.covered]
    have hread : frame.Covers i → i < s.currentReadOffset → i < s.readSize := by
      intro hi hlt
      unfold QuicStreamState.readSize
      cases hfinal : s.finalReadOffset with
      | none => exact hlt
      | some F =>
        have h1 := hs.observed i hi
        have h2 := (hok.final_eq F hfinal).1
        exact Nat.lt_min.mpr ⟨hlt, h2 ▸ h1⟩
    rw [hs.read, hs.current] at hread
    rw [hs.read]
    generalize Segment.Covered (segs h.stream.readBuffer) i = P
    by_cases hP : P
    · simp [hP]
    · simp only [hP, or_false]
      by_cases hi : frame.Covers i
      · have hread := hread hi
        simp only [hi, and_true, true_or, true_iff]
        omega
      · simp [hi]
  have hclosed : h'.stream.recvState = .closed ↔ s.isAllDataReceived = true := by
    rw [hstream]
    split
    · simp [*]
    · rw [hs.state, hopen]
      simp [*]
  have hsame : h'.stream.toQuicStreamLike = s.toQuicStreamLike ∧
      h'.stream.flowControlState = s.flowControlState := by
    rw [hstream]
    split <;> exact ⟨rfl, rfl⟩
  refine ⟨?_, fun _ i => ?_, ?_, fun F => ?_, ?_⟩
  · exact hok.congr hsame.1 hsame.2
  · rw [hreceived, QuicStreamState.readSize, QuicStreamState.readSize, hsame.1]
  · rw [hframes, hsame.1]
    intro f hf i hi
    rcases List.mem_append.mp hf with hf | hf
    · exact Nat.lt_of_lt_of_le (hinv.observed f hf i hi) hs.grows
    · rw [List.mem_singleton.mp hf] at hi
      exact hs.observed i hi
  · rw [hsame.1, hs.final, hinv.final]
    simp only [Announced, hframes, hresets, List.mem_append, List.mem_singleton]
    constructor
    · rintro ((⟨f, hf, hfin⟩ | hr) | hfin)
      · exact .inl ⟨f, .inl hf, hfin⟩
      · exact .inr hr
      · exact .inl ⟨frame, .inr rfl, hfin⟩
    · rintro (⟨f, hf | rfl, hfin⟩ | hr)
      · exact .inl (.inl ⟨f, hf, hfin⟩)
      · exact .inr hfin
      · exact .inl (.inr hr)
  · rw [hclosed, QuicStreamState.isAllDataReceived_iff hok, hresets, hsame.1]
    simp [hnil, hreceived]

theorem Inv.reset {frame : RstStreamFrame} (hinv : h.Inv) (hok : s.Ok)
    (hclosed : s.recvState = .closed) (hs : h.stream.Reset s frame)
    (hframes : h'.frames = h.frames) (hresets : h'.resets = h.resets ++ [frame])
    (hstream : h'.stream = s) : h'.Inv := by
  subst hstream
  have hobserved : h'.stream.maxOffsetObserved = frame.offset := (hok.final_eq _ hs.final).1
  refine ⟨hok, fun hopen => ?_, ?_, fun F => ?_, ?_⟩
  · rw [hclosed] at hopen
    cases hopen
  · rw [hframes, hobserved]
    exact fun f hf i hi => Nat.lt_of_lt_of_le (hinv.observed f hf i hi) hs.observed
  · have hknown : h.Announced F → frame.offset = F := fun hF => (hs.known F ((hinv.final F).mpr hF)).symm
    rw [hs.final, Option.some.injEq, Announced, hframes, hresets]
    constructor
    · intro hF
      exact .inr ⟨frame, by simp, hF⟩
    · rintro (hf | ⟨r, hr, hF⟩)
      · exact hknown (.inl hf)
      · rcases List.mem_append.mp hr with hr | hr
        · exact hknown (.inr ⟨r, hr, hF⟩)
        · rw [← List.mem_singleton.mp hr]
          exact hF
  · simp [hclosed, hresets]

/-! ### Runs -/

theorem step_inv (hinv : h.Inv) (hstep : h.step e = .ok h') : h'.Inv := by
  cases e with
  | streamFrame frame =>
    simp only [step] at hstep
    split at hstep
    · cases hstep
    · rename_i s c hcall
      cases hstep
      rcases QuicStreamState.receiveReadStreamFrameSMHandler_ok hcall with
        ⟨hopen, s₁, happend, hs⟩ | ⟨hclosed, rfl, rfl⟩
      · rw [onFrame, if_pos hopen]
        exact hinv.appended hopen
          (QuicStreamState.appendDataToReadBuffer_accounted hinv.ok happend).ok
          (QuicStreamState.appendDataToReadBuffer_appended hinv.ok happend) rfl rfl hs
      · rw [onFrame, if_neg (by simp [hclosed])]
        exact ⟨hinv.ok, hinv.received, hinv.observed, hinv.final, hinv.closed⟩
  | rstStream frame t =>
    simp only [step] at hstep
    split at hstep
    · cases hstep
    · rename_i s c hcall
      cases hstep
      obtain ⟨hreset, hclosed⟩ := QuicStreamState.receiveRstStreamSMHandler_reset hcall
      exact hinv.reset (QuicStreamState.receiveRstStreamSMHandler_accounted hinv.ok hcall).ok
        hclosed hreset rfl rfl rfl
  | read amount t =>
    simp only [step] at hstep
    split at hstep
    · cases hstep
    · rename_i hcall
      cases hstep
      exact hinv.of_onlyReads (QuicStreamState.readDataFromQuicStream_accounted hinv.ok hcall).ok
        (QuicStreamState.readOrConsume_onlyReads hinv.ok hcall) rfl rfl rfl
  | consume amount t =>
    simp only [step, QuicStreamState.consumeDataFromQuicStream] at hstep
    split at hstep
    · cases hstep
    · rename_i hcall
      cases hstep
      split at hcall
      · cases hcall
      · rename_i hread
        cases hcall
        exact hinv.of_onlyReads (QuicStreamState.readOrConsume_accounted hinv.ok hread).ok
          (QuicStreamState.readOrConsume_onlyReads hinv.ok hread) rfl rfl rfl
  | sendMaxStreamData sentTime =>
    cases hstep
    exact hinv.of_onlyReads (QuicStreamState.onStreamWindowUpdateSent_accounted (c := h.conn) hinv.ok rfl).ok
      ⟨rfl, rfl, rfl, fun _ => Iff.rfl⟩ rfl rfl rfl
  | others flow update updates =>
    cases hstep
    exact ⟨hinv.ok, hinv.received, hinv.observed, hinv.final, hinv.closed⟩

/-- Frames are recorded and stay recorded. -/
theorem step_grows (hstep : h.step e = .ok h') :
    h.frames ⊆ h'.frames ∧ h.resets ⊆ h'.resets := by
  cases e with
  | streamFrame frame =>
    simp only [step] at hstep
    split at hstep
    · cases hstep
    · cases hstep
      unfold onFrame
      split <;> simp
  | rstStream frame t =>
    simp only [step] at hstep
    split at hstep
    · cases hstep
    · cases hstep
      simp
  | read amount t =>
    simp only [step] at hstep
    split at hstep <;> cases hstep
    simp
  | consume amount t =>
    simp only [step] at hstep
    split at hstep <;> cases hstep
    simp
  | sendMaxStreamData sentTime =>
    cases hstep
    simp
  | others flow update updates =>
    cases hstep
    simp

theorem Announced.mono {F : Nat} (hF : h.Announced F) (hframes : h.frames ⊆ h'.frames)
    (hresets : h.resets ⊆ h'.resets) : h'.Announced F := by
  rcases hF with ⟨f, hf, hfin⟩ | ⟨r, hr, hF⟩
  · exact .inl ⟨f, hframes hf, hfin⟩
  · exact .inr ⟨r, hresets hr, hF⟩

theorem Inv.finalSizeOf (hinv : h.Inv) : ∃ F, FinalSizeOf h.frames h.resets F := by
  cases hfinal : h.stream.finalReadOffset with
  | none =>
    have hnone : ∀ F, ¬ h.Announced F := by
      intro F hF
      rw [(hinv.final F).mpr hF] at hfinal
      cases hfinal
    refine ⟨h.stream.maxOffsetObserved, fun f hf hfin => ?_, hinv.observed, fun r hr => ?_⟩
    · exact absurd (.inl ⟨f, hf, hfin, rfl⟩) (hnone f.endOffset)
    · exact absurd (.inr ⟨r, hr, rfl⟩) (hnone r.offset)
  | some F =>
    have hknown : ∀ F', h.Announced F' → F' = F := by
      intro F' hF'
      have := (hinv.final F').mpr hF'
      rw [hfinal] at this
      cases this
      rfl
    refine ⟨F, fun f hf hfin => ?_, fun f hf i hi => ?_, fun r hr => ?_⟩
    · exact hknown f.endOffset (.inl ⟨f, hf, hfin, rfl⟩)
    · rw [← (hinv.ok.final_eq F hfinal).1]
      exact hinv.observed f hf i hi
    · exact hknown r.offset (.inr ⟨r, hr, rfl⟩)

theorem run_inv {es : List StreamEvent} (hinv : h.Inv) (hrun : es.foldlM step h = .ok h') :
    h'.Inv :=
  run_invariant (fun _ _ _ hinv hstep => step_inv hinv hstep) hinv hrun

theorem run_grows {es : List StreamEvent} (hrun : es.foldlM step h = .ok h') :
    h.frames ⊆ h'.frames ∧ h.resets ⊆ h'.resets := by
  refine @run_invariant _ _ _ _ (fun u : StreamHistory => h.frames ⊆ u.frames ∧
    h.resets ⊆ u.resets) ?_ _ _ _ ⟨List.Subset.refl _, List.Subset.refl _⟩ hrun
  rintro u e u' ⟨hframes, hresets⟩ hstep
  obtain ⟨hframes', hresets'⟩ := step_grows hstep
  exact ⟨List.Subset.trans hframes hframes', List.Subset.trans hresets hresets'⟩

/-- The frames that were accepted agree on a final size, which stays once it is known; the
receive side is closed by a reset, or by the last byte that was missing. Frames that come later
are discarded without a look at their offsets. -/
theorem run_finalSize (conn : RecvConn) (id : StreamId) {es : List StreamEvent}
    (hrun : es.foldlM step (new conn id) = .ok h) :
    (∃ F, FinalSizeOf h.frames h.resets F) ∧
      (∀ F, h.stream.finalReadOffset = some F ↔ h.Announced F) ∧
      (∀ (fs : List StreamEvent) h' F, fs.foldlM step h = .ok h' →
        h.stream.finalReadOffset = some F → h'.stream.finalReadOffset = some F) ∧
      (h.stream.recvState = .closed ↔ h.resets ≠ [] ∨
        ∃ F, h.stream.finalReadOffset = some F ∧ ∀ i, i < F → h.Received i) ∧
      ∀ frame h', h.stream.recvState = .closed → h.step (.streamFrame frame) = .ok h' →
        h' = { h with discarded := h.discarded ++ [frame] } := by
  have hinv := run_inv (inv_new conn id) hrun
  refine ⟨hinv.finalSizeOf, hinv.final, fun fs h' F hfs hF => ?_, hinv.closed, ?_⟩
  · obtain ⟨hframes, hresets⟩ := run_grows hfs
    exact ((run_inv hinv hfs).final F).mpr (((hinv.final F).mp hF).mono hframes hresets)
  · intro frame h' hclosed hstep
    simp only [step, QuicStreamState.receiveReadStreamFrameSMHandler, hclosed] at hstep
    split at hstep
    · cases hstep
    · rename_i hcall
      split at hcall
      · cases hcall
      · cases hcall
        cases hstep
        simp [onFrame, hclosed]

/-- A stream of the client with windows of ten bytes. -/
def tenBytes : StreamHistory := new (.new .server Receiver.tenBytes) 0

/-- Three bytes, which are the whole stream. -/
def wholeStream : StreamEvent := .streamFrame ⟨0, 0, some (IOBuf.wrapBuffer [1, 2, 3]), true⟩

/-- The stream is complete; a byte behind its end is discarded. -/
theorem run_finalSize_tenBytes :
    ∃ h, [wholeStream, .streamFrame ⟨0, 10, some (IOBuf.wrapBuffer [4]), false⟩].foldlM step
        tenBytes = .ok h ∧
      (∃ F, FinalSizeOf h.frames h.resets F) ∧ h.stream.recvState = .closed ∧
      ∃ F, h.stream.finalReadOffset = some F ∧ ∀ i, i < F → h.Received i := by
  have hrun : [wholeStream, .streamFrame ⟨0, 10, some (IOBuf.wrapBuffer [4]), false⟩].foldlM step
    tenBytes = .ok _ := rfl
  obtain ⟨hsize, -, -, hclosed, -⟩ := run_finalSize _ _ hrun
  exact ⟨_, hrun, hsize, rfl, (hclosed.mp rfl).resolve_left fun hne => hne rfl⟩

/-- No final size fits the three bytes with a FIN and the byte behind them. -/
theorem finalSize_discarded :
    ∃ h, [wholeStream, .streamFrame ⟨0, 10, some (IOBuf.wrapBuffer [4]), false⟩].foldlM step
        tenBytes = .ok h ∧
      ¬ ∃ F, FinalSizeOf (h.frames ++ h.discarded) h.resets F := by
  refine ⟨_, rfl, ?_⟩
  rintro ⟨F, hfin, hdata, -⟩
  have hF : 3 = F := hfin _ (.head _) rfl
  have hlt : 10 < F := hdata _ (.tail _ (.head _)) 10 ⟨Nat.le_refl _, Nat.lt_succ_self _⟩
  omega

end StreamHistory

end MasqueQuic
