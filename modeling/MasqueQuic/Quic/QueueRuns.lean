/-
A `BufQueue` is a list of bytes.

Whatever elements a chain has, empty ones among them, and whatever calls are made, the queue answers
as the list of its bytes does. So the answers do not tell how the bytes are cut into elements.
-/

import MasqueQuic.Lib.Transcript
import MasqueQuic.Quic.BufQueue

namespace MasqueQuic

/-! ### Lists -/

/-- A call to a queue whose pieces are of the type `β`. -/
inductive QueueCall (β : Type) where
  | append (piece : β)
  | splitAtMost (len : Nat)
  | trimStartAtMost (amount : Nat)
  | trimStart (amount : Nat)

/-- What a call returns. `underflow` is the exception of `trimStart`. -/
inductive QueueAnswer (β : Type) where
  | done
  | split (piece : β)
  | trimmed (amount : Nat)
  | underflow
  deriving DecidableEq

def QueueCall.map {β γ : Type} (f : β → γ) : QueueCall β → QueueCall γ
  | append piece => append (f piece)
  | splitAtMost len => splitAtMost len
  | trimStartAtMost amount => trimStartAtMost amount
  | trimStart amount => trimStart amount

def QueueAnswer.map {β γ : Type} (f : β → γ) : QueueAnswer β → QueueAnswer γ
  | done => done
  | split piece => split (f piece)
  | trimmed amount => trimmed amount
  | underflow => underflow

/-- A queue that is a list: pieces come at its end and are taken from its front. A `trimStart` past
the end fails when everything has been taken. -/
def listQueue {α : Type} (s : List α) : QueueCall (List α) → QueueAnswer (List α) × List α
  | .append piece => (.done, s ++ piece)
  | .splitAtMost len => (.split (s.take len), s.drop len)
  | .trimStartAtMost amount => (.trimmed (min amount s.length), s.drop amount)
  | .trimStart amount => (if s.length < amount then .underflow else .done, s.drop amount)

/-! ### Chains -/

namespace BufQueue

/-- One call. Where `trimStart` throws, the queue stays as `trimStartAtMost` left it. -/
def call (q : BufQueue) : QueueCall Buf → QueueAnswer Buf × BufQueue
  | .append buf => (.done, q.append buf)
  | .splitAtMost len => (.split (q.splitAtMost len).1, (q.splitAtMost len).2)
  | .trimStartAtMost amount =>
      (.trimmed (q.trimStartAtMost amount).1, (q.trimStartAtMost amount).2)
  | .trimStart amount =>
      match q.trimStart amount with
      | none => (.underflow, (q.trimStartAtMost amount).2)
      | some q' => (.done, q')

theorem trimStart_eq_none_iff {q : BufQueue} {amount : Nat} :
    q.trimStart amount = none ↔ q.chainLength < amount := by
  constructor
  · intro hnone
    by_contra hle
    rw [trimStart_of_le (Nat.le_of_not_lt hle)] at hnone
    cases hnone
  · intro hlt
    have htrimmed : (q.trimStartAtMost amount).1 ≠ amount := by
      rw [trimStartAtMost_fst]
      omega
    change (if (q.trimStartAtMost amount).1 ≠ amount then none else _) = _
    rw [if_pos htrimmed]

/-- One call answers as on the bytes, and leaves the bytes so. -/
theorem call_bytes (q : BufQueue) (c : QueueCall Buf) :
    ((q.call c).1.map Buf.bytes, (q.call c).2.bytes) = listQueue q.bytes (c.map Buf.bytes) := by
  cases c with
  | append buf => simp [call, listQueue, QueueCall.map, QueueAnswer.map]
  | splitAtMost len =>
    simp [call, listQueue, QueueCall.map, QueueAnswer.map, (q.splitAtMost_bytes len).1,
      (q.splitAtMost_bytes len).2]
  | trimStartAtMost amount =>
    simp [call, listQueue, QueueCall.map, QueueAnswer.map, trimStartAtMost_fst]
  | trimStart amount =>
    by_cases hlt : q.chainLength < amount
    · have hnone := trimStart_eq_none_iff.mpr hlt
      simp [call, listQueue, QueueCall.map, QueueAnswer.map, hnone, hlt]
    · have hsome := trimStart_of_le (Nat.le_of_not_lt hlt)
      simp [call, listQueue, QueueCall.map, QueueAnswer.map, hsome, hlt]

/-- Over any calls to a queue made from any chain, the answers and the bytes that are left are those
of the list of bytes, the length kept is the number of the bytes, and chains of the same bytes in
other elements have the same answers. -/
theorem transcript_bytes (chain : Buf) (calls : List (QueueCall Buf)) :
    (transcript call (ofBuf chain) calls).1.map (QueueAnswer.map Buf.bytes) =
        (transcript listQueue chain.bytes (calls.map (QueueCall.map Buf.bytes))).1 ∧
      (transcript call (ofBuf chain) calls).2.bytes =
        (transcript listQueue chain.bytes (calls.map (QueueCall.map Buf.bytes))).2 ∧
      (transcript call (ofBuf chain) calls).2.chainLength =
        (transcript call (ofBuf chain) calls).2.bytes.length ∧
      ∀ (chain' : Buf) (calls' : List (QueueCall Buf)), chain'.bytes = chain.bytes →
        calls'.map (QueueCall.map Buf.bytes) = calls.map (QueueCall.map Buf.bytes) →
          (transcript call (ofBuf chain') calls').1.map (QueueAnswer.map Buf.bytes) =
            (transcript call (ofBuf chain) calls).1.map (QueueAnswer.map Buf.bytes) := by
  have hrun := fun chain calls => Prod.ext_iff.mp (transcript_map call_bytes (ofBuf chain) calls)
  refine ⟨(hrun chain calls).1, (hrun chain calls).2, (length_bytes _).symm, ?_⟩
  intro chain' calls' hchain hcalls
  have hother := (hrun chain' calls').1
  rw [hcalls, bytes_ofBuf, hchain] at hother
  exact hother.trans (hrun chain calls).1.symm

example : (transcript call (ofBuf (.ofElems [⟨[1], 0, false⟩, ⟨[], 4, false⟩, ⟨[2, 3], 0, false⟩]))
    [.splitAtMost 2, .trimStart 5]).1.map (QueueAnswer.map Buf.bytes) =
      [.split [1, 2], .underflow] := rfl

end BufQueue

end MasqueQuic
