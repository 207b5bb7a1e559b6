/-
The read buffer of a stream: `appendDataToReadBufferCommon` and
`readDataInOrderFromReadBuffer`.

The buffer is a deque of sections of the stream, each with its offset. Appending
merges a new section with those it overlaps or touches: the loop walks an iterator
`it` over the deque while `current` points to the new section, or, once the new bytes
have been appended to a section that was there already, to that section. The sections
to be erased lie between `startOverlap` and `endOverlap`. Iterators are indices here;
the deque does not change its size while the loop runs.
-/

import MasqueQuic.Quic.BufQueue
import MasqueQuic.Quic.QuicException

namespace MasqueQuic

structure StreamBuffer where
  data : BufQueue
  offset : Nat
  eof : Bool
  deriving DecidableEq

namespace StreamBuffer

/-- `StreamBuffer(Buf dataIn, uint64_t offsetIn, bool eofIn)`. -/
def new (dataIn : Buf) (offsetIn : Nat) (eofIn : Bool) : StreamBuffer :=
  ⟨.ofBuf dataIn, offsetIn, eofIn⟩

/-- `offset + data.chainLength()`. -/
def endOffset (b : StreamBuffer) : Nat := b.offset + b.data.chainLength

end StreamBuffer

/-- The receive side of `QuicStreamLike`. -/
structure QuicStreamLike where
  readBuffer : List StreamBuffer
  currentReadOffset : Nat
  maxOffsetObserved : Nat
  finalReadOffset : Option Nat
  deriving DecidableEq

namespace QuicStreamLike

def new : QuicStreamLike := ⟨[], 0, 0, none⟩

/-! ### Merging -/

/-- The variables of the merge loop. `current` is `none` while it points to `buffer`;
then the section is not inserted yet. -/
structure Merge where
  readBuffer : List StreamBuffer
  buffer : StreamBuffer
  current : Option Nat
  startOverlap : Option Nat
  endOverlap : Option Nat

namespace Merge

def cur (m : Merge) : StreamBuffer :=
  match m.current with
  | none => m.buffer
  | some i => m.readBuffer.getD i m.buffer

/-- Assignment to `current->data`. -/
def setCurData (m : Merge) (data : BufQueue) : Merge :=
  match m.current with
  | none => { m with buffer := { m.buffer with data } }
  | some i => { m with readBuffer := m.readBuffer.modify i fun b => { b with data } }

/-- Assignment to `it->data`. -/
def setData (m : Merge) (it : Nat) (data : BufQueue) : Merge :=
  { m with readBuffer := m.readBuffer.modify it fun b => { b with data } }

/-- The bytes of `it` behind `current` go over to `current`; `it` is to be erased. -/
def leftOverlap (m : Merge) (it : Nat) (b : StreamBuffer) : Merge :=
  let trimmed := (b.data.trimStartAtMost (m.cur.endOffset - b.offset)).2
  let m :=
    if trimmed.chainLength > 0 then
      (m.setData it trimmed.move.2).setCurData (m.cur.data.append trimmed.move.1)
    else m.setData it trimmed
  { m with startOverlap := m.startOverlap.or (some it), endOverlap := some (it + 1) }

/-- `current` goes before `it`. -/
def leftNoOverlap (m : Merge) (it : Nat) : Merge :=
  if m.startOverlap.isNone then { m with startOverlap := some it, endOverlap := some it } else m

/-- `it` lies inside `current` and is to be erased. -/
def completeOverlap (m : Merge) (it : Nat) : Merge :=
  { m with startOverlap := m.startOverlap.or (some it), endOverlap := some (it + 1) }

/-- The bytes of `current` behind `it` go over to `it`, which becomes `current`. -/
def rightOverlap (m : Merge) (it : Nat) (b : StreamBuffer) : Merge :=
  let trimmed := (m.cur.data.trimStartAtMost (b.endOffset - m.cur.offset)).2
  let m := (m.setCurData trimmed.move.2).setData it (b.data.append trimmed.move.1)
  { m with current := some it, startOverlap := some (it + 1), endOverlap := some (it + 1) }

/-- One iteration at position `it`, which holds `b`, and whether the loop is done. -/
def iterate (m : Merge) (it : Nat) (b : StreamBuffer) : Merge × Bool :=
  let current := m.cur
  let currentEnd := current.endOffset
  let itEnd := b.endOffset
  if current.offset = b.offset ∧ currentEnd = itEnd then (m, true)
  else if current.offset ≥ b.offset ∧ currentEnd ≤ itEnd then (m, true)
  else if current.offset ≤ b.offset ∧ currentEnd ≥ b.offset ∧ currentEnd ≤ itEnd then
    (m.leftOverlap it b, true)
  else if current.offset < b.offset ∧ currentEnd < b.offset then (m.leftNoOverlap it, true)
  else if current.offset ≤ b.offset ∧ currentEnd > b.offset then (m.completeOverlap it, false)
  else if current.offset ≥ b.offset ∧ current.offset ≤ itEnd ∧ currentEnd > itEnd then
    (m.rightOverlap it b, false)
  else (m, false)

/-- The loop, with `n` positions left before the end of the deque. -/
def loop : Nat → Nat → Merge → Merge
  | 0, _, m => m
  | n + 1, it, m =>
      match m.readBuffer[it]? with
      | none => m
      | some b =>
          match m.iterate it b with
          | (m', true) => m'
          | (m', false) => loop n (it + 1) m'

/-- `deque.erase(first, last)`. -/
def erase (readBuffer : List StreamBuffer) (first last : Nat) : List StreamBuffer :=
  readBuffer.take first ++ readBuffer.drop last

/-- What follows the loop. -/
def finish (m : Merge) : List StreamBuffer :=
  match m.current, m.startOverlap, m.endOverlap with
  | none, some start, some stop =>
      m.readBuffer.take start ++ m.buffer :: m.readBuffer.drop stop
  | some _, some start, some stop => erase m.readBuffer start stop
  | _, _, _ =>
      match m.readBuffer.getLast? with
      | none => m.readBuffer
      | some last =>
          if m.cur.offset > last.endOffset then m.readBuffer ++ [m.cur] else m.readBuffer

end Merge

/-- `std::lower_bound` with the predicate of `appendDataToReadBufferCommon`: the first
section that does not end before `offset`. -/
def lowerBound (readBuffer : List StreamBuffer) (offset : Nat) : Nat :=
  readBuffer.findIdx fun b => !(b.endOffset < offset)

/-- The part of `appendDataToReadBufferCommon` that puts a section into the deque. -/
def insertBuffer (readBuffer : List StreamBuffer) (buffer : StreamBuffer) : List StreamBuffer :=
  if readBuffer.isEmpty then [buffer]
  else
    let it := lowerBound readBuffer buffer.offset
    (Merge.loop (readBuffer.length - it) it ⟨readBuffer, buffer, none, none, none⟩).finish

/-! ### Appending -/

section Append

variable {σ : Type}

/-- The consistency checks on the final size. An exception leaves the stream as it is;
otherwise the result is the new `finalReadOffset`. -/
def checkFinalOffset (stream : QuicStreamLike) (buffer : StreamBuffer) :
    Except QuicException (Option Nat) :=
  match stream.finalReadOffset, buffer.eof with
  | some final, true =>
      if final ≠ buffer.endOffset then .error (.transport "Invalid EOF" .finalSizeError)
      else if stream.maxOffsetObserved > buffer.endOffset then
        .error (.transport "EOF in middle of stream" .finalSizeError)
      else .ok (some buffer.endOffset)
  | none, true =>
      if stream.maxOffsetObserved > buffer.endOffset then
        .error (.transport "EOF in middle of stream" .finalSizeError)
      else .ok (some buffer.endOffset)
  | some final, false =>
      if buffer.endOffset > final then
        .error (.transport "Invalid data after EOF" .finalSizeError)
      else .ok (some final)
  | none, false => .ok none

/-- Trim what lies before the read offset, and insert what is left. -/
def insertUnread (stream : QuicStreamLike) (buffer : StreamBuffer) : QuicStreamLike :=
  if buffer.data.chainLength = 0 then stream
  else if buffer.offset < stream.currentReadOffset then
    let data := (buffer.data.trimStartAtMost (stream.currentReadOffset - buffer.offset)).2
    if data.chainLength = 0 then stream
    else
      { stream with
        readBuffer := insertBuffer stream.readBuffer
          { buffer with data, offset := stream.currentReadOffset } }
  else { stream with readBuffer := insertBuffer stream.readBuffer buffer }

/-- An exception carries the stream as it was when it was thrown: the final size is
stored before the flow control visitor runs. -/
def appendDataToReadBufferCommon (connFlowControlVisitor : Nat → Nat → σ → Except QuicException σ)
    (stream : QuicStreamLike) (conn : σ) (buffer : StreamBuffer) :
    Except (QuicException × QuicStreamLike) (QuicStreamLike × σ) :=
  if ¬ buffer.eof ∧ buffer.data.chainLength = 0 then .ok (stream, conn)
  else
    match stream.checkFinalOffset buffer with
    | .error e => .error (e, stream)
    | .ok final =>
        let stream := { stream with finalReadOffset := final }
        match connFlowControlVisitor stream.maxOffsetObserved buffer.endOffset conn with
        | .error e => .error (e, stream)
        | .ok conn =>
            let stream :=
              { stream with maxOffsetObserved := max stream.maxOffsetObserved buffer.endOffset }
            .ok (stream.insertUnread buffer, conn)

end Append

/-! ### Reading in order -/

/-- The variables of `readDataInOrderFromReadBuffer` when its loop ends. -/
structure InOrder where
  data : Buf
  eof : Bool
  readBuffer : List StreamBuffer
  currentReadOffset : Nat

/-- Take `toRead` bytes off a section: dropped, or cut off to be returned. -/
def takeFrom (sinkData : Bool) (data : BufQueue) (toRead : Nat) :
    Except QuicException (Buf × BufQueue) :=
  if sinkData then
    match data.trimStart toRead with
    | none => .error .underflow
    | some left => .ok (none, left)
  else .ok (data.splitAtMost toRead)

/-- The loop of `readDataInOrderFromReadBuffer`, over the deque. A section that is not
taken whole has used up the amount, so the loop ends there. -/
def readInOrder (amount : Nat) (sinkData : Bool) :
    List StreamBuffer → Nat → Nat → Buf → Bool → Except QuicException InOrder
  | [], _, offset, data, eof => .ok ⟨data, eof, [], offset⟩
  | curr :: rest, remaining, offset, data, eof =>
      if ¬ (amount = 0 ∨ remaining ≠ 0) ∨ curr.offset > offset then
        .ok ⟨data, eof, curr :: rest, offset⟩
      else if curr.offset ≠ offset then .error (.check .readOffset)
      else
        let currSize := curr.data.chainLength
        let toRead := min currSize (if amount = 0 then currSize else remaining)
        match takeFrom sinkData curr.data toRead with
        | .error e => .error e
        | .ok (splice, left) =>
            let data := if sinkData then data else data.appendToChain splice
            if left.chainLength = 0 then
              readInOrder amount sinkData rest
                (if amount ≠ 0 then remaining - toRead else remaining) (offset + toRead) data
                curr.eof
            else
              .ok ⟨data, eof, { curr with data := left, offset := curr.offset + toRead } :: rest,
                offset + toRead⟩

/-- The data read, and whether the last section taken whole was marked as the end. -/
def readDataInOrderFromReadBuffer (stream : QuicStreamLike) (amount : Nat) (sinkData : Bool) :
    Except QuicException (Buf × Bool × QuicStreamLike) :=
  match readInOrder amount sinkData stream.readBuffer amount stream.currentReadOffset none
      false with
  | .error e => .error e
  | .ok out =>
      .ok (out.data, out.eof, { stream with
        readBuffer := out.readBuffer
        currentReadOffset := out.currentReadOffset })

end QuicStreamLike

end MasqueQuic
