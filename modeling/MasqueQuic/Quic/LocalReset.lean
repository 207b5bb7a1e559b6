/-
A reset of the send half, seen from the receive half.

`resetQuicStream` clears all buffers of the stream, the read buffer among them. `DuplexStream`
puts the receive half with its history beside the send half; whatever else the send half does
does not touch the receive half, so it may be replaced by any other (`send`).
-/

import MasqueQuic.Quic.ReceiveHistory
import MasqueQuic.Quic.StreamSend

namespace MasqueQuic

open QuicStreamLike (segs)

structure DuplexStream where
  recv : StreamHistory
  send : SendStream

inductive DuplexEvent where
  | recv (e : StreamEvent)
  | reset (errorCode : Nat)
  | send (s : SendStream)

inductive DuplexFault where
  | recv (e : QuicException)
  | send (f : StreamFault)

namespace DuplexStream

/-- `resetQuicStream`, on both halves. -/
def resetQuicStream (d : DuplexStream) (error : Nat) : DuplexStream where
  recv := { d.recv with stream := { d.recv.stream with readBuffer := [] } }
  send := d.send.resetQuicStream error

def sendRstSMHandler (d : DuplexStream) (errorCode : Nat) : Except StreamFault DuplexStream :=
  match d.send.sendRstSMHandler errorCode with
  | .error f => .error f
  | .ok (send, _) =>
      if d.send.sendState = .open then .ok { d.resetQuicStream errorCode with send }
      else .ok { d with send }

def step (d : DuplexStream) : DuplexEvent → Except DuplexFault DuplexStream
  | .recv e =>
      match d.recv.step e with
      | .error e => .error (.recv e)
      | .ok recv => .ok { d with recv }
  | .reset errorCode =>
      match d.sendRstSMHandler errorCode with
      | .error f => .error (.send f)
      | .ok d => .ok d
  | .send send => .ok { d with send }

def new (conn : RecvConn) (id : StreamId) (send : SendStream) : DuplexStream := ⟨.new conn id, send⟩

/-- A byte behind the read offset is in the read buffer or has not been received. -/
def Kept (d : DuplexStream) : Prop :=
  ∀ i, d.recv.stream.currentReadOffset ≤ i → i < d.recv.stream.maxOffsetObserved →
    Segment.Covered (segs d.recv.stream.readBuffer) i ∨ ¬ d.recv.Received i

/-- Whatever happens on the receive half from here on, reads return the same bytes. -/
def SameReads (d d' : DuplexStream) : Prop :=
  ∀ es : List StreamEvent, (·.taken) <$> es.foldlM StreamHistory.step d'.recv =
    (·.taken) <$> es.foldlM StreamHistory.step d.recv

/-- A reset of a send half that is open finds nothing in the read buffer. -/
def NothingUnread (d : DuplexStream) : DuplexEvent → Prop
  | .reset _ => d.recv.stream.recvState = .open → d.send.sendState = .open →
      d.recv.stream.readBuffer = []
  | _ => True

/-- The received bytes that have not been read survive the reset. -/
def KeepsUnread (d : DuplexStream) : DuplexEvent → Prop
  | .reset errorCode => d.recv.stream.recvState = .open →
      ∀ d', d.step (.reset errorCode) = .ok d' → Kept d' ∧ SameReads d d'
  | _ => True

variable {d d' : DuplexStream}

theorem step_reset_ok {errorCode : Nat} (h : d.step (.reset errorCode) = .ok d') :
    d'.recv = if d.send.sendState = .open then
        { d.recv with stream := { d.recv.stream with readBuffer := [] } }
      else d.recv := by
  simp only [step, sendRstSMHandler] at h
  split at h
  · cases h
  · rename_i hcall
    cases h
    split at hcall
    · cases hcall
    · split at hcall <;> cases hcall <;> simp [resetQuicStream, *]

/-- Only a stream that cannot send refuses the reset. -/
theorem step_reset_exists (errorCode : Nat) (hvalid : d.send.sendState ≠ .invalid) :
    ∃ d', d.step (.reset errorCode) = .ok d' := by
  simp only [step, sendRstSMHandler, SendStream.sendRstSMHandler]
  cases hstate : d.send.sendState with
  | «open» => exact ⟨_, rfl⟩
  | closed => exact ⟨_, rfl⟩
  | resetSent => exact ⟨_, rfl⟩
  | invalid => exact absurd hstate hvalid

end DuplexStream

/-- Without the read buffer the rest of the history still fits, once the receive side is
closed. -/
theorem StreamHistory.Inv.cleared {h : StreamHistory} (hinv : h.Inv)
    (hopen : h.stream.recvState ≠ .open) :
    Inv { h with stream := { h.stream with readBuffer := [] } } := by
  exact ⟨hinv.ok.withoutBuffer, fun h => absurd h hopen, hinv.observed, hinv.final, hinv.closed⟩

namespace DuplexStream

variable {d d' : DuplexStream} {e : DuplexEvent}

theorem kept_of_inv (hinv : d.recv.Inv) (hopen : d.recv.stream.recvState = .open) : d.Kept := by
  intro i hi hlt
  by_cases hreceived : d.recv.Received i
  · refine .inl (((hinv.received hopen i).mp hreceived).resolve_left ?_)
    have := d.recv.stream.readSize_le_current
    omega
  · exact .inr hreceived

/-- A section in the read buffer holds a byte that has been received and not been read. -/
theorem exists_unread (hinv : d.recv.Inv) (hopen : d.recv.stream.recvState = .open)
    (hne : d.recv.stream.readBuffer ≠ []) :
    ∃ i, d.recv.stream.currentReadOffset ≤ i ∧ i < d.recv.stream.maxOffsetObserved ∧
      d.recv.Received i := by
  obtain ⟨b, rest, hbuffer⟩ := List.exists_cons_of_ne_nil hne
  have hmem : b.seg ∈ segs d.recv.stream.readBuffer := by
    rw [hbuffer]
    exact .head _
  have hcovered : Segment.Covered (segs d.recv.stream.readBuffer) b.offset :=
    ⟨b.seg, hmem, Nat.le_refl _,
      Segment.length_pos_of_ne_nil (hinv.ok.normal.nonempty b.seg hmem)⟩
  exact ⟨b.offset, hinv.ok.normal.above b.seg hmem, hinv.ok.covered_lt _ hcovered,
    (hinv.received hopen _).mpr (.inr hcovered)⟩

theorem step_inv (hinv : d.recv.Inv) (hC : d.NothingUnread e) (hstep : d.step e = .ok d') :
    d'.recv.Inv := by
  cases e with
  | recv e =>
    simp only [step] at hstep
    split at hstep
    · cases hstep
    · rename_i hcall
      cases hstep
      exact StreamHistory.step_inv hinv hcall
  | reset errorCode =>
    rw [step_reset_ok hstep]
    split
    · rename_i hsend
      by_cases hopen : d.recv.stream.recvState = .open
      · rw [← hC hopen hsend]
        exact hinv
      · exact hinv.cleared hopen
    · exact hinv
  | send s =>
    cases hstep
    exact hinv

/-- A reset keeps what has been received exactly when it finds nothing to throw away. -/
theorem nothingUnread_iff (hinv : d.recv.Inv) : d.NothingUnread e ↔ d.KeepsUnread e := by
  cases e with
  | recv e => exact Iff.rfl
  | send s => exact Iff.rfl
  | reset errorCode =>
    constructor
    · intro hC hopen d' hstep
      have hsame : d'.recv = d.recv := by
        rw [step_reset_ok hstep]
        split
        · rename_i hsend
          rw [← hC hopen hsend]
        · rfl
      refine ⟨kept_of_inv (hsame ▸ hinv) (hsame ▸ hopen), fun es => ?_⟩
      rw [hsame]
    · intro hkeeps hopen hsend
      by_contra hne
      obtain ⟨d', hstep⟩ := step_reset_exists (d := d) errorCode (by simp [hsend])
      obtain ⟨i, hi, hlt, hreceived⟩ := exists_unread hinv hopen hne
      obtain ⟨hkept, -⟩ := hkeeps hopen d' hstep
      have hrecv := step_reset_ok hstep
      rw [if_pos hsend] at hrecv
      rw [Kept, hrecv] at hkept
      rcases hkept i hi hlt with ⟨b, hb, -⟩ | hnot
      · cases hb
      · exact hnot hreceived

/-- In every run a reset of the send half leaves the receive half as it is, the read buffer apart,
and the resets keep the bytes that were received and not read exactly when each of them finds
the send half closed or reset already, or the read buffer empty. -/
theorem reset_keepsUnread_iff (conn : RecvConn) (id : StreamId) (send : SendStream)
    (es : List DuplexEvent) :
    ((∀ (fs : List DuplexEvent) errorCode d d', fs ++ [.reset errorCode] <+: es →
        fs.foldlM step (new conn id send) = .ok d → d.recv.stream.recvState = .open →
        d.step (.reset errorCode) = .ok d' → d'.Kept ∧ SameReads d d') ↔
      Meets step NothingUnread (new conn id send) es) ∧
      ∀ (fs : List DuplexEvent) errorCode d d', fs.foldlM step (new conn id send) = .ok d →
        d.step (.reset errorCode) = .ok d' →
          d'.recv = d.recv ∨ d.send.sendState = .open ∧
            d'.recv = { d.recv with stream := { d.recv.stream with readBuffer := [] } } := by
  constructor
  · rw [@meets_congr _ _ _ step NothingUnread (fun d => d.recv.Inv) KeepsUnread
      (fun _ _ _ hinv hC hstep => step_inv hinv hC hstep) (fun _ _ hinv => nothingUnread_iff hinv)
      _ _ (StreamHistory.inv_new conn id), meets_iff_forall_prefix]
    constructor
    · intro h fs e d hfs hrun
      cases e with
      | recv e => trivial
      | send s => trivial
      | reset errorCode => exact fun hopen d' hstep => h fs errorCode d d' hfs hrun hopen hstep
    · intro h fs errorCode d d' hfs hrun hopen hstep
      exact h fs (.reset errorCode) d hfs hrun hopen d' hstep
  · intro fs errorCode d d' _ hstep
    have hrecv := step_reset_ok hstep
    split at hrecv
    · rename_i hsend
      exact .inr ⟨hsend, hrecv⟩
    · exact .inl hrecv

/-- Three bytes have arrived on a stream whose send half is open. -/
def threeBytes : List DuplexEvent :=
  [.recv (.streamFrame ⟨0, 0, some (IOBuf.wrapBuffer [1, 2, 3]), false⟩)]

/-- The three bytes are gone after a reset, and a read returns nothing. -/
theorem reset_losesUnread :
    ∃ d d', threeBytes.foldlM step (new (.new .server Receiver.tenBytes) 0 (.new 0 10 .open)) = .ok d ∧
      d.recv.stream.recvState = .open ∧ d.step (.reset 0) = .ok d' ∧ ¬ d'.Kept ∧
      ¬ SameReads d d' := by
  refine ⟨_, _, rfl, rfl, rfl, fun hkept => ?_, fun hreads => ?_⟩
  · rcases hkept 0 (Nat.le_refl 0) (by decide) with ⟨b, hb, -⟩ | hnot
    · cases hb
    · exact hnot ⟨_, .head _, Nat.le_refl 0, by decide⟩
  · have htaken := Except.ok.inj (hreads [.read 0 ⟨0, 0⟩])
    revert htaken
    decide

end DuplexStream

end MasqueQuic
