/-
The stream scheduler (`StreamFrameScheduler` in `quic/api/QuicPacketScheduler.cpp`) over the
iterators of the priority queue (`quic/state/QuicPriorityQueue.h`).

A level is gone through until its iterator is at its end or a stream is refused. Where the packet is
full, an incremental iterator moves on only after `maxNextsPerStream` calls, and a stream without
lost data is passed without a look at the space once the connection may send no more: then the loop
comes to the same stream again and again. `pass` is one round through a level, up to where the packet
is full.
-/

import Mathlib.Data.Prod.Lex
import MasqueQuic.Lib.RoundRobin
import MasqueQuic.Quic.PriorityQueue
import MasqueQuic.Quic.WritableBytes

namespace MasqueQuic

open RoundRobin

/-! ### The order in a level -/

instance : LinearOrder OrderedStream where
  le a b := toLex (a.orderId, a.streamId) ≤ toLex (b.orderId, b.streamId)
  lt a b := toLex (a.orderId, a.streamId) < toLex (b.orderId, b.streamId)
  le_refl _ := le_refl _
  le_trans _ _ _ := le_trans
  lt_iff_le_not_ge _ _ := lt_iff_le_not_ge
  le_antisymm a b hab hba := by
    have h := toLex.injective (le_antisymm hab hba)
    obtain ⟨id, orderId⟩ := a
    obtain ⟨id', orderId'⟩ := b
    cases h
    rfl
  le_total _ _ := le_total _ _
  toDecidableEq := instDecidableEqOrderedStream
  toDecidableLE a b :=
    inferInstanceAs (Decidable (toLex (a.orderId, a.streamId) ≤ toLex (b.orderId, b.streamId)))

theorem OrderedStream.lt_iff (a b : OrderedStream) : a < b ↔ a.Before b := by
  unfold Before
  refine Prod.Lex.toLex_lt_toLex.trans ?_
  dsimp only
  split
  · next h =>
      rw [h]
      exact ⟨fun hor => hor.elim (fun hlt => absurd hlt (lt_irrefl _)) (·.2),
        fun hlt => .inr ⟨rfl, hlt⟩⟩
  · next h => exact ⟨fun hor => hor.elim id fun hand => absurd hand.1 h, .inl⟩

namespace OrderedStreamSet

theorem Sorted.lt {streams : OrderedStreamSet} (h : Sorted streams) : streams.Pairwise (· < ·) :=
  List.Pairwise.imp (fun hab => (OrderedStream.lt_iff _ _).mpr hab) h

theorem successor_eq (s : OrderedStream) (streams : OrderedStreamSet) :
    successor s streams = following s streams := by
  unfold successor following
  congr 1
  funext a
  exact decide_eq_decide.mpr (OrderedStream.lt_iff s a).symm

end OrderedStreamSet

/-! ### Streams and offers -/

/-- A stream of the write queue. `writeBufMetaOffset` is zero without DSR data. -/
structure QueuedStream extends WritingStream where
  writeBufMetaOffset : Nat
  hasSchedulableDsr : Bool

/-- What the scheduler of other data than DSR sees of a stream: the FIN only where there are no DSR
data. -/
def QueuedStream.nonDsr (s : QueuedStream) : WritingStream :=
  { s.toWritingStream with
    finalWriteOffset := if s.writeBufMetaOffset = 0 then s.finalWriteOffset else none }

/-- The scheduler leaves the packet to the DSR scheduler. -/
def QueuedStream.isDsr (s : QueuedStream) : Bool :=
  !s.nonDsr.hasSchedulableData && s.hasSchedulableDsr

/-- A call of `writeSingleStream`, with its result. -/
structure StreamOffer where
  index : Fin kDefaultPriorityLevelsSize
  stream : OrderedStream
  passed : Bool

/-- How the loop over a level is left: by the end of the iterator, by a stream that is refused, or
with the whole function. -/
inductive LevelEnd where
  | round
  | refused
  | returned
  deriving DecidableEq

structure LevelRun where
  level : Level
  connWritableBytes : Nat
  space : FrameSpace
  offers : List StreamOffer
  ending : LevelEnd

structure HelperRun where
  levels : Fin kDefaultPriorityLevelsSize → Level
  connWritableBytes : Nat
  space : FrameSpace
  offers : List StreamOffer

/-- `end()`. -/
def Level.atEnd (level : Level) (incremental : Bool) : Bool :=
  if incremental then decide (level.nextStreamIt = level.startStreamIt)
  else decide (level.nextStreamIt = none)

/-- The streams of a level in the order of a round. -/
def Level.order (level : Level) (incremental : Bool) : List OrderedStream :=
  match incremental, level.nextStreamIt with
  | true, some start => level.streams.dropWhile (· != start) ++ level.streams.takeWhile (· != start)
  | _, _ => level.streams

namespace StreamFrameScheduler

open SchedulingConn (writeSingleStream)

/-- `do` … `while` of a level, with at most so many rounds of it. -/
def writeLevel (streams : StreamId → QueuedStream) (streamPerPacket : Bool)
    (index : Fin kDefaultPriorityLevelsSize) : Nat → Level → Nat → FrameSpace → Option LevelRun
  | 0, _, _, _ => none
  | fuel + 1, level, connWritableBytes, p =>
      match level.nextStreamIt with
      | none => none
      | some current =>
          let stream := streams current.streamId
          if stream.isDsr then some ⟨level, connWritableBytes, p, [], .returned⟩
          else
            let (passed, connWritableBytes, p) :=
              writeSingleStream stream.nonDsr connWritableBytes p
            let offer : StreamOffer := ⟨index, current, passed⟩
            if !passed then some ⟨level, connWritableBytes, p, [offer], .refused⟩
            else
              let forceNext := decide (0 < p.remainingSpaceInPkt)
              let level := level.next (QueueRun.incremental index) forceNext current
              if streamPerPacket then some ⟨level, connWritableBytes, p, [offer], .returned⟩
              else if level.atEnd (QueueRun.incremental index) then
                some ⟨level, connWritableBytes, p, [offer], .round⟩
              else (writeLevel streams streamPerPacket index fuel level connWritableBytes p).map
                fun run => { run with offers := offer :: run.offers }

/-- More rounds than any level takes (`writeLevel_isSome`). -/
def roundLimit (level : Level) : Nat := (level.streams.length + 1) * (level.maxNextsPerStream + 1)

def writeLevels (streams : StreamId → QueuedStream) (streamPerPacket : Bool) :
    List (Fin kDefaultPriorityLevelsSize) → (Fin kDefaultPriorityLevelsSize → Level) → Nat →
      FrameSpace → Option HelperRun
  | [], levels, connWritableBytes, p => some ⟨levels, connWritableBytes, p, []⟩
  | index :: rest, levels, connWritableBytes, p =>
      if p.remainingSpaceInPkt = 0 then some ⟨levels, connWritableBytes, p, []⟩
      else if (levels index).streams.isEmpty then
        writeLevels streams streamPerPacket rest levels connWritableBytes p
      else
        match writeLevel streams streamPerPacket index (roundLimit (levels index))
          ((levels index).begin (QueueRun.incremental index)) connWritableBytes p with
        | none => none
        | some run =>
            let levels := Function.update levels index run.level
            if run.ending = .returned then
              some ⟨levels, run.connWritableBytes, run.space, run.offers⟩
            else
              (writeLevels streams streamPerPacket rest levels run.connWritableBytes run.space).map
                fun r => { r with offers := run.offers ++ r.offers }

/-- `writeStreamsHelper` over the priority queue. -/
def writeStreamsHelper (streams : StreamId → QueuedStream) (streamPerPacket : Bool)
    (levels : Fin kDefaultPriorityLevelsSize → Level) (connWritableBytes : Nat) (p : FrameSpace) :
    Option HelperRun :=
  writeLevels streams streamPerPacket (List.finRange kDefaultPriorityLevelsSize) levels
    connWritableBytes p

/-! ### One round through a level -/

/-- How a round ends. `filled` is a stream that has filled the packet, with those behind it. -/
inductive PassEnd where
  | through (connWritableBytes : Nat) (p : FrameSpace)
  | refused (connWritableBytes : Nat) (p : FrameSpace)
  | returned
  | filled (current : OrderedStream) (rest : List OrderedStream) (connWritableBytes : Nat)
      (p : FrameSpace)

def pass (streams : StreamId → QueuedStream) (streamPerPacket : Bool) :
    List OrderedStream → Nat → FrameSpace → PassEnd
  | [], connWritableBytes, p => .through connWritableBytes p
  | current :: rest, connWritableBytes, p =>
      let stream := streams current.streamId
      if stream.isDsr then .returned
      else
        let (passed, connWritableBytes, p) := writeSingleStream stream.nonDsr connWritableBytes p
        if !passed then .refused connWritableBytes p
        else if streamPerPacket then .returned
        else if p.remainingSpaceInPkt = 0 then .filled current rest connWritableBytes p
        else pass streams streamPerPacket rest connWritableBytes p

/-- In a full packet the stream is passed, with nothing written: there are no lost data, and no new
data that the connection may send. -/
def Idle (streams : StreamId → QueuedStream) (connWritableBytes : Nat) (s : OrderedStream) : Prop :=
  let stream := streams s.streamId
  stream.isDsr = false ∧ stream.lossBuffer = [] ∧
    (stream.nonDsr.hasWritableData = false ∨ connWritableBytes = 0)

/-- The stream that the iterator of an incremental level comes to in a full packet, if it is not at
its end then, is passed. That is the stream that has filled the packet, or the second one, if the
first one has filled it. -/
def SpinsAt (streams : StreamId → QueuedStream) (order : List OrderedStream) : PassEnd → Prop
  | .filled current rest connWritableBytes _ =>
      if order.head? = some current then
        ∃ s, rest.head? = some s ∧ Idle streams connWritableBytes s
      else Idle streams connWritableBytes current
  | _ => False

/-- The packet is filled at a place of an incremental level where the loop turns without writing. -/
def Spins (streams : StreamId → QueuedStream) (streamPerPacket : Bool)
    (levels : Fin kDefaultPriorityLevelsSize → Level) :
    List (Fin kDefaultPriorityLevelsSize) → Nat → FrameSpace → Prop
  | [], _, _ => False
  | index :: rest, connWritableBytes, p =>
      if p.remainingSpaceInPkt = 0 then False
      else
        let incremental := QueueRun.incremental index
        let order := (levels index).order incremental
        let passEnd := pass streams streamPerPacket order connWritableBytes p
        incremental = true ∧ SpinsAt streams order passEnd ∨
          match passEnd with
          | .through connWritableBytes p | .refused connWritableBytes p =>
              Spins streams streamPerPacket levels rest connWritableBytes p
          | _ => False

/-! ### Full packets -/

section

variable {streams : StreamId → QueuedStream} {streamPerPacket : Bool}
  {index : Fin kDefaultPriorityLevelsSize} {connWritableBytes : Nat} {p : FrameSpace}

theorem writeStreamFrame_full (hfull : p.remainingSpaceInPkt = 0) (s : WritingStream)
    (offset bufferLen flowControlLen : Nat) (fin : Bool) :
    SchedulingConn.writeStreamFrame s offset bufferLen flowControlLen fin p = (none, p) := by
  unfold SchedulingConn.writeStreamFrame
  exact if_pos (.inl hfull)

/-- In a full packet a stream is passed or refused, and nothing is written. -/
theorem writeSingleStream_full (hfull : p.remainingSpaceInPkt = 0) (s : WritingStream) :
    writeSingleStream s connWritableBytes p = (s.lossBuffer.isEmpty &&
      !(s.hasWritableData && decide (0 < connWritableBytes)), connWritableBytes, p) := by
  have hloss : SchedulingConn.writeStreamLossBuffers s s.lossBuffer p = (false, p) := by
    cases s.lossBuffer with
    | nil => rfl
    | cons buffer rest =>
      unfold SchedulingConn.writeStreamLossBuffers
      rw [writeStreamFrame_full hfull]
      rfl
  unfold writeSingleStream
  rw [hloss]
  dsimp only
  cases s.lossBuffer with
  | cons buffer rest => rfl
  | nil =>
    by_cases hwritable : (s.hasWritableData && decide (0 < connWritableBytes)) = true
    · rw [hwritable]
      unfold SchedulingConn.writeStreamData
      rw [writeStreamFrame_full hfull]
      rfl
    · rw [Bool.not_eq_true] at hwritable
      rw [hwritable]
      rfl

theorem writeSingleStream_idle (hfull : p.remainingSpaceInPkt = 0) {s : OrderedStream}
    (hidle : Idle streams connWritableBytes s) :
    writeSingleStream (streams s.streamId).nonDsr connWritableBytes p =
      (true, connWritableBytes, p) := by
  obtain ⟨-, hloss, hdata⟩ := hidle
  rw [writeSingleStream_full hfull]
  have hempty : (streams s.streamId).nonDsr.lossBuffer = [] := hloss
  rw [hempty]
  rcases hdata with hnone | hzero
  · rw [hnone]
    rfl
  · rw [hzero]
    simp

theorem writeSingleStream_busy (hfull : p.remainingSpaceInPkt = 0) {s : OrderedStream}
    (hdsr : (streams s.streamId).isDsr = false) (hidle : ¬ Idle streams connWritableBytes s) :
    writeSingleStream (streams s.streamId).nonDsr connWritableBytes p =
      (false, connWritableBytes, p) := by
  rw [writeSingleStream_full hfull]
  have hrefused : ((streams s.streamId).nonDsr.lossBuffer.isEmpty &&
      !((streams s.streamId).nonDsr.hasWritableData && decide (0 < connWritableBytes))) =
        false := by
    rw [Bool.eq_false_iff]
    intro hpassed
    rw [Bool.and_eq_true, Bool.not_eq_true', Bool.and_eq_false_iff] at hpassed
    obtain ⟨hloss, hdata⟩ := hpassed
    refine hidle ⟨hdsr, List.isEmpty_iff.mp hloss, hdata.imp_right fun hzero => ?_⟩
    have hnot := of_decide_eq_false hzero
    omega
  rw [hrefused]

end

/-! ### The iterator in a round -/

/-- The iterator has gone through `V` and is at the head of `W`. -/
structure Round (index : Fin kDefaultPriorityLevelsSize) (level : Level)
    (V W : List OrderedStream) : Prop where
  sorted : OrderedStreamSet.Sorted level.streams
  order : if QueueRun.incremental index then Ring (V ++ W) level.streams else V ++ W = level.streams
  next : level.nextStreamIt = W.head?
  start : QueueRun.incremental index = true → level.startStreamIt = (V ++ W).head?

namespace Round

variable {index : Fin kDefaultPriorityLevelsSize} {level : Level} {V W : List OrderedStream}
  {x : OrderedStream} {force : Bool}

theorem nodup (h : Round index level V W) : (V ++ W).Nodup := by
  have horder := h.order
  split at horder
  · exact horder.nodup h.sorted.nodup
  · rw [horder]
    exact h.sorted.nodup

/-- The iterator is not told to stay. -/
def Leaves (index : Fin kDefaultPriorityLevelsSize) (level : Level) (force : Bool) : Prop :=
  QueueRun.incremental index = true →
    ¬ (force = false ∧ level.nextsSoFar + 1 < level.maxNextsPerStream)

/-- Where the iterator moves on, it is at its end behind the last stream and else at the next. -/
theorem next_leaves (h : Round index level V (x :: W)) (hleaves : Leaves index level force) :
    (W = [] → (level.next (QueueRun.incremental index) force x).atEnd
        (QueueRun.incremental index) = true) ∧
      (W ≠ [] → (level.next (QueueRun.incremental index) force x).atEnd
          (QueueRun.incremental index) = false ∧
        Round index (level.next (QueueRun.incremental index) force x) (V ++ [x]) W ∧
        (QueueRun.incremental index = true →
          (level.next (QueueRun.incremental index) force x).nextsSoFar = 0)) := by
  have hnodup := h.nodup
  have horder := h.order
  have hsorted := h.sorted.lt
  unfold Leaves at hleaves
  cases hincremental : QueueRun.incremental index with
  | true =>
    rw [hincremental, if_pos rfl] at horder
    have hstart := h.start hincremental
    have hnext := horder.nextOf hsorted
    have hlevel : level.next true force x = { level with
        nextStreamIt := (W ++ V ++ [x]).head?, nextsSoFar := 0 } := by
      unfold Level.next
      dsimp only
      rw [if_pos rfl, if_neg (hleaves hincremental), OrderedStreamSet.successor_eq, ← hnext]
      rfl
    rw [hlevel]
    refine ⟨?_, ?_⟩
    · rintro rfl
      refine decide_eq_true ?_
      rw [hstart]
      simp
    · intro hW
      obtain ⟨w, W', rfl⟩ := List.exists_cons_of_ne_nil hW
      refine ⟨decide_eq_false ?_, ⟨h.sorted, ?_, rfl, fun _ => ?_⟩, fun _ => rfl⟩
      · rw [hstart]
        intro hsame
        cases V with
        | nil =>
          obtain rfl : w = x := by simpa using hsame
          simp at hnodup
        | cons v V =>
          obtain rfl : w = v := by simpa using hsame
          simp at hnodup
      · rw [hincremental, if_pos rfl, List.append_assoc]
        exact horder
      · rw [hstart, List.append_assoc]
        rfl
  | false =>
    rw [hincremental, if_neg Bool.false_ne_true] at horder
    have hlevel : level.next false force x = { level with nextStreamIt := W.head? } := by
      unfold Level.next
      dsimp only
      rw [if_neg Bool.false_ne_true, OrderedStreamSet.successor_eq, ← horder,
        following_append (by rw [horder]; exact hsorted)]
    rw [hlevel]
    refine ⟨?_, ?_⟩
    · rintro rfl
      rfl
    · intro hW
      obtain ⟨w, W', rfl⟩ := List.exists_cons_of_ne_nil hW
      refine ⟨rfl, ⟨h.sorted, ?_, rfl, fun htrue => ?_⟩, fun htrue => ?_⟩
      · rw [hincremental, if_neg Bool.false_ne_true, List.append_assoc]
        exact horder
      · rw [hincremental] at htrue
        cases htrue
      · cases htrue

/-- Where the iterator stays, it is at its end only at the start of the round. -/
theorem next_stays (h : Round index level V (x :: W))
    (hincremental : QueueRun.incremental index = true)
    (hstays : level.nextsSoFar + 1 < level.maxNextsPerStream) :
    level.next (QueueRun.incremental index) false x =
        { level with nextsSoFar := level.nextsSoFar + 1 } ∧
      (level.next (QueueRun.incremental index) false x).atEnd (QueueRun.incremental index) =
        V.isEmpty := by
  have hlevel : level.next true false x = { level with nextsSoFar := level.nextsSoFar + 1 } := by
    unfold Level.next
    dsimp only
    rw [if_pos rfl, if_pos ⟨rfl, hstays⟩]
  have hstart := h.start hincremental
  have hnext := h.next
  rw [hincremental, hlevel]
  refine ⟨rfl, ?_⟩
  unfold Level.atEnd
  dsimp only
  rw [if_pos rfl, hnext, hstart]
  cases V with
  | nil => exact decide_eq_true rfl
  | cons v V =>
    refine decide_eq_false ?_
    intro hsame
    obtain rfl : x = v := by simpa using hsame
    have hnodup := h.nodup
    simp at hnodup

/-- The count of the iterator does not matter for where it is. -/
theorem withCount (h : Round index level V W) (n : Nat) :
    Round index { level with nextsSoFar := n } V W :=
  ⟨h.sorted, h.order, h.next, h.start⟩

end Round

/-! ### The loop and a round -/

section

variable {streams : StreamId → QueuedStream} {streamPerPacket : Bool}
  {index : Fin kDefaultPriorityLevelsSize} {level : Level} {V W : List OrderedStream}
  {connWritableBytes : Nat} {p : FrameSpace} {fuel : Nat}

/-- The loop behind a stream that has filled the packet. -/
def continued (streams : StreamId → QueuedStream) (streamPerPacket : Bool)
    (index : Fin kDefaultPriorityLevelsSize) (fuel : Nat) (level : Level) (current : OrderedStream)
    (connWritableBytes : Nat) (p : FrameSpace) : Option LevelRun :=
  let level := level.next (QueueRun.incremental index) false current
  if level.atEnd (QueueRun.incremental index) then
    some ⟨level, connWritableBytes, p, [], .round⟩
  else writeLevel streams streamPerPacket index fuel level connWritableBytes p

/-- All of them have been passed. -/
def passedAll (index : Fin kDefaultPriorityLevelsSize) (W : List OrderedStream) :
    List StreamOffer :=
  W.map fun s => ⟨index, s, true⟩

/-- The loop has done what the round through `W` does, and goes on where that has been left with a
full packet. -/
def Matches (streams : StreamId → QueuedStream) (streamPerPacket : Bool)
    (index : Fin kDefaultPriorityLevelsSize) (fuel : Nat) (level : Level) (V W : List OrderedStream)
    (run : Option LevelRun) : PassEnd → Prop
  | .through connWritableBytes p =>
      ∃ level', run = some ⟨level', connWritableBytes, p, passedAll index W, .round⟩
  | .refused connWritableBytes p =>
      ∃ level' offers, run = some ⟨level', connWritableBytes, p, offers, .refused⟩ ∧
        offers.length ≤ W.length ∧ ∃ o ∈ offers, o.passed = false
  | .returned => ∃ r, run = some r ∧ r.ending = .returned ∧ r.offers.length ≤ W.length
  | .filled current rest connWritableBytes p =>
      p.remainingSpaceInPkt = 0 ∧ (streams current.streamId).isDsr = false ∧
        ∃ U fuel' level', W = U ++ current :: rest ∧ fuel = U.length + 1 + fuel' ∧
          Round index level' (V ++ U) (current :: rest) ∧
          level'.maxNextsPerStream = level.maxNextsPerStream ∧
          (QueueRun.incremental index = true →
            level'.nextsSoFar = if V ++ U = [] then level.nextsSoFar else 0) ∧
          run = (continued streams streamPerPacket index fuel' level' current connWritableBytes
            p).map fun r => { r with offers := passedAll index (U ++ [current]) ++ r.offers }

theorem maxNexts_next (level : Level) (incremental force : Bool) (current : OrderedStream) :
    (level.next incremental force current).maxNextsPerStream = level.maxNextsPerStream := by
  unfold Level.next
  dsimp only
  split
  · split
    · rfl
    · rfl
  · rfl

/-- A stream is passed with space left, and the rest of the round follows. -/
theorem Matches.cons {level' : Level} {x : OrderedStream} {run : Option LevelRun}
    {passEnd : PassEnd}
    (h : Matches streams streamPerPacket index fuel level' (V ++ [x]) W run passEnd)
    (hmax : level'.maxNextsPerStream = level.maxNextsPerStream)
    (hcount : QueueRun.incremental index = true → level'.nextsSoFar = 0) :
    Matches streams streamPerPacket index (fuel + 1) level V (x :: W)
      (run.map fun r => { r with offers := ⟨index, x, true⟩ :: r.offers }) passEnd := by
  cases passEnd with
  | through c p =>
    obtain ⟨level'', rfl⟩ := h
    exact ⟨level'', rfl⟩
  | refused c p =>
    obtain ⟨level'', offers, rfl, hlength, o, ho, hrefused⟩ := h
    exact ⟨level'', _, rfl, Nat.succ_le_succ hlength, o, List.mem_cons_of_mem _ ho, hrefused⟩
  | returned =>
    obtain ⟨r, rfl, hending, hlength⟩ := h
    exact ⟨_, rfl, hending, Nat.succ_le_succ hlength⟩
  | filled current rest c p =>
    obtain ⟨hfull, hdsr, U, fuel', level'', rfl, rfl, hround, hmax', hcount', rfl⟩ := h
    refine ⟨hfull, hdsr, x :: U, fuel', level'', rfl, ?_, ?_, hmax'.trans hmax, ?_, ?_⟩
    · rw [List.length_cons]
      omega
    · rw [List.append_assoc] at hround
      exact hround
    · intro hincremental
      have hnonempty : V ++ x :: U ≠ [] := by simp
      rw [if_neg hnonempty, hcount' hincremental]
      split
      · exact hcount hincremental
      · rfl
    · rw [Option.map_map]
      rfl

variable (streams streamPerPacket connWritableBytes p) in
theorem writeLevel_pass (h : Round index level V W) (hW : W ≠ [])
    (hcount : QueueRun.incremental index = true → V ≠ [] → level.nextsSoFar = 0)
    (hfuel : W.length ≤ fuel) :
    Matches streams streamPerPacket index fuel level V W
      (writeLevel streams streamPerPacket index fuel level connWritableBytes p)
      (pass streams streamPerPacket W connWritableBytes p) := by
  induction W generalizing V level connWritableBytes p fuel with
  | nil => exact absurd rfl hW
  | cons x W ih =>
    obtain ⟨fuel, rfl⟩ : ∃ n, fuel = n + 1 := by
      rw [List.length_cons] at hfuel
      exact ⟨fuel - 1, by omega⟩
    have hnext : level.nextStreamIt = some x := h.next
    unfold writeLevel pass
    rw [hnext]
    dsimp only
    by_cases hdsr : (streams x.streamId).isDsr = true
    · rw [if_pos hdsr, if_pos hdsr]
      exact ⟨_, rfl, rfl, Nat.zero_le _⟩
    rw [if_neg hdsr, if_neg hdsr]
    generalize writeSingleStream (streams x.streamId).nonDsr connWritableBytes p = r
    obtain ⟨passed, c, p'⟩ := r
    dsimp only
    cases passed with
    | false => exact ⟨level, _, rfl, by simp, _, List.mem_cons_self, rfl⟩
    | true =>
      rw [Bool.not_true, if_neg Bool.false_ne_true, if_neg Bool.false_ne_true]
      cases streamPerPacket with
      | true =>
        rw [if_pos rfl, if_pos rfl]
        exact ⟨_, rfl, rfl, by simp⟩
      | false =>
        rw [if_neg Bool.false_ne_true, if_neg Bool.false_ne_true]
        by_cases hfull : p'.remainingSpaceInPkt = 0
        · -- the packet is full
          rw [if_pos hfull, hfull]
          refine ⟨hfull, Bool.not_eq_true _ ▸ hdsr, [], fuel, level, rfl,
            by simp [Nat.add_comm], ?_, rfl, ?_, ?_⟩
          · rwa [List.append_nil]
          · intro hincremental
            rw [List.append_nil]
            split
            · rfl
            · next hV => exact hcount hincremental hV
          · unfold continued
            dsimp only
            rw [decide_eq_false (Nat.lt_irrefl 0)]
            split
            · rfl
            · rfl
        · rw [if_neg hfull, decide_eq_true (Nat.pos_of_ne_zero hfull)]
          have hleaves : Round.Leaves index level true := by
            rintro - ⟨hforced, -⟩
            cases hforced
          obtain ⟨hlast, hmore⟩ := h.next_leaves hleaves
          by_cases hWnil : W = []
          · rw [if_pos (hlast hWnil), hWnil]
            exact ⟨_, rfl⟩
          · obtain ⟨hend, hround, hzero⟩ := hmore hWnil
            rw [hend, if_neg Bool.false_ne_true]
            exact (ih _ _ hround hWnil (fun hincremental _ => hzero hincremental)
              (by simpa using hfuel)).cons (maxNexts_next _ _ _ _) hzero

/-! ### The loop in a full packet -/

/-- Nothing is written into a full packet. -/
theorem writeLevel_full (hfull : p.remainingSpaceInPkt = 0) {run : LevelRun}
    (h : writeLevel streams streamPerPacket index fuel level connWritableBytes p = some run) :
    run.space = p := by
  induction fuel generalizing level run with
  | zero => cases h
  | succ fuel ih =>
    unfold writeLevel at h
    split at h
    · cases h
    · dsimp only at h
      rw [writeSingleStream_full hfull] at h
      dsimp only at h
      split at h
      · cases h
        rfl
      split at h
      · cases h
        rfl
      split at h
      · cases h
        rfl
      split at h
      · cases h
        rfl
      · obtain ⟨run', hrun', rfl⟩ := Option.map_eq_some_iff.mp h
        exact @ih _ run' hrun'

variable (streams streamPerPacket index fuel) in
/-- A stream that is not passed ends the loop. -/
theorem writeLevel_busy (hfull : p.remainingSpaceInPkt = 0) {x : OrderedStream}
    (hnext : level.nextStreamIt = some x) (hidle : ¬ Idle streams connWritableBytes x) :
    ∃ run, writeLevel streams streamPerPacket index (fuel + 1) level connWritableBytes p =
      some run ∧ run.offers.length ≤ 1 := by
  unfold writeLevel
  rw [hnext]
  dsimp only
  by_cases hdsr : (streams x.streamId).isDsr = true
  · rw [if_pos hdsr]
    exact ⟨_, rfl, Nat.zero_le _⟩
  · rw [if_neg hdsr, writeSingleStream_busy hfull (Bool.not_eq_true _ ▸ hdsr) hidle]
    exact ⟨_, rfl, Nat.le_refl _⟩

variable (streams streamPerPacket connWritableBytes fuel) in
/-- Where the iterator always moves on, the loop comes to each stream at most once. -/
theorem writeLevel_once (hfull : p.remainingSpaceInPkt = 0) (h : Round index level V W)
    (hW : W ≠ [])
    (hmax : QueueRun.incremental index = true → level.maxNextsPerStream ≤ 1)
    (hfuel : W.length ≤ fuel) :
    ∃ run, writeLevel streams streamPerPacket index fuel level connWritableBytes p = some run ∧
      run.offers.length ≤ W.length := by
  induction W generalizing V level fuel with
  | nil => exact absurd rfl hW
  | cons x W ih =>
    obtain ⟨fuel, rfl⟩ : ∃ n, fuel = n + 1 := by
      rw [List.length_cons] at hfuel
      exact ⟨fuel - 1, by omega⟩
    have hnext : level.nextStreamIt = some x := h.next
    by_cases hidle : Idle streams connWritableBytes x
    · unfold writeLevel
      rw [hnext]
      dsimp only
      rw [if_neg (by rw [hidle.1]; exact Bool.false_ne_true), writeSingleStream_idle hfull hidle]
      dsimp only
      rw [Bool.not_true, if_neg Bool.false_ne_true, hfull]
      cases streamPerPacket with
      | true => exact ⟨_, rfl, by simp⟩
      | false =>
        rw [if_neg Bool.false_ne_true]
        have hleaves : Round.Leaves index level (decide (0 < 0)) := by
          rintro hincremental ⟨-, hstays⟩
          have := hmax hincremental
          omega
        obtain ⟨hlast, hmore⟩ := h.next_leaves hleaves
        by_cases hWnil : W = []
        · rw [if_pos (hlast hWnil)]
          exact ⟨_, rfl, by simp⟩
        · obtain ⟨hend, hround, -⟩ := hmore hWnil
          rw [hend, if_neg Bool.false_ne_true]
          obtain ⟨run, hrun, hlength⟩ := ih _ hround hWnil
            (fun hincremental => by rw [maxNexts_next]; exact hmax hincremental)
            (by simpa using hfuel)
          rw [hrun]
          exact ⟨_, rfl, Nat.succ_le_succ hlength⟩
    · obtain ⟨run, hrun, hlength⟩ :=
        writeLevel_busy streams streamPerPacket index fuel hfull hnext hidle
      exact ⟨run, hrun, hlength.trans (Nat.succ_le_succ (Nat.zero_le _))⟩

/-- At an idle stream that is not the first, the loop turns until the count is full. -/
theorem writeLevel_spins (hfull : p.remainingSpaceInPkt = 0) {x : OrderedStream}
    (h : Round index level V (x :: W)) (hV : V ≠ [])
    (hincremental : QueueRun.incremental index = true)
    (hidle : Idle streams connWritableBytes x) {run : LevelRun}
    (hrun : writeLevel streams false index fuel level connWritableBytes p = some run)
    (hcount : level.nextsSoFar < level.maxNextsPerStream) :
    level.maxNextsPerStream ≤ level.nextsSoFar + run.offers.length := by
  induction fuel generalizing level run with
  | zero => cases hrun
  | succ fuel ih =>
    have hnext : level.nextStreamIt = some x := h.next
    unfold writeLevel at hrun
    rw [hnext] at hrun
    dsimp only at hrun
    rw [if_neg (by rw [hidle.1]; exact Bool.false_ne_true), writeSingleStream_idle hfull hidle]
      at hrun
    dsimp only at hrun
    rw [Bool.not_true, if_neg Bool.false_ne_true, if_neg Bool.false_ne_true, hfull,
      decide_eq_false (Nat.lt_irrefl 0)] at hrun
    by_cases hstays : level.nextsSoFar + 1 < level.maxNextsPerStream
    · obtain ⟨hlevel, hend⟩ := h.next_stays hincremental hstays
      rw [hend, hlevel] at hrun
      have hnotEnd : V.isEmpty = false := by
        cases V with
        | nil => exact absurd rfl hV
        | cons v V => rfl
      rw [hnotEnd, if_neg Bool.false_ne_true] at hrun
      obtain ⟨run', hrun', rfl⟩ := Option.map_eq_some_iff.mp hrun
      have hmore := ih (h.withCount _) hrun' hstays
      dsimp only at hmore ⊢
      rw [List.length_cons]
      omega
    · have hpos : 0 < run.offers.length := by
        split at hrun
        · cases hrun
          exact Nat.zero_lt_one
        · obtain ⟨run', -, rfl⟩ := Option.map_eq_some_iff.mp hrun
          exact Nat.succ_pos _
      omega

/-- A level needs no more rounds of the loop than there are counts of its streams. -/
theorem writeLevel_isSome (h : Round index level V W) (hW : W ≠ [])
    (hfuel : (W.length - 1) * (level.maxNextsPerStream + 1) +
      (level.maxNextsPerStream - level.nextsSoFar) < fuel) :
    ∃ run, writeLevel streams streamPerPacket index fuel level connWritableBytes p = some run := by
  induction fuel generalizing V W level connWritableBytes p with
  | zero => exact absurd hfuel (Nat.not_lt_zero _)
  | succ fuel ih =>
    obtain ⟨x, W, rfl⟩ := List.exists_cons_of_ne_nil hW
    have hnext : level.nextStreamIt = some x := h.next
    unfold writeLevel
    rw [hnext]
    dsimp only
    split
    · exact ⟨_, rfl⟩
    generalize writeSingleStream (streams x.streamId).nonDsr connWritableBytes p = r
    obtain ⟨passed, c, p'⟩ := r
    dsimp only
    split
    · exact ⟨_, rfl⟩
    split
    · exact ⟨_, rfl⟩
    split
    · exact ⟨_, rfl⟩
    · next hend =>
        rw [List.length_cons, Nat.add_sub_cancel] at hfuel
        suffices hmore : ∃ run, writeLevel streams streamPerPacket index fuel
            (level.next (QueueRun.incremental index) (decide (0 < p'.remainingSpaceInPkt)) x) c
              p' = some run by
          obtain ⟨run, hrun⟩ := hmore
          rw [hrun]
          exact ⟨_, rfl⟩
        generalize decide (0 < p'.remainingSpaceInPkt) = force at hend ⊢
        by_cases hleaves : Round.Leaves index level force
        · obtain ⟨hlast, hmore⟩ := h.next_leaves hleaves
          have hWne : W ≠ [] := fun hnil => hend (hlast hnil)
          obtain ⟨-, hround, -⟩ := hmore hWne
          refine ih hround hWne ?_
          rw [maxNexts_next]
          have hlength := List.length_pos_of_ne_nil hWne
          have hsplit : W.length * (level.maxNextsPerStream + 1) =
              (W.length - 1) * (level.maxNextsPerStream + 1) + (level.maxNextsPerStream + 1) := by
            rw [← Nat.succ_mul, Nat.succ_eq_add_one, Nat.sub_add_cancel hlength]
          omega
        · obtain ⟨hincremental, rfl, hstays⟩ : QueueRun.incremental index = true ∧ force = false ∧
              level.nextsSoFar + 1 < level.maxNextsPerStream := by
            unfold Round.Leaves at hleaves
            push Not at hleaves
            exact ⟨hleaves.1, hleaves.2.1, hleaves.2.2⟩
          obtain ⟨hlevel, -⟩ := h.next_stays hincremental hstays
          rw [hlevel]
          refine ih (h.withCount _) (List.cons_ne_nil x W) ?_
          rw [List.length_cons, Nat.add_sub_cancel]
          dsimp only
          omega

end

/-! ### A level -/

/-- The streams are sorted, and the iterator refers to one of them. -/
structure LevelMarked (level : Level) : Prop where
  sorted : OrderedStreamSet.Sorted level.streams
  marked : ∀ x, level.nextStreamIt = some x → x ∈ level.streams

theorem dropWhile_of_mem {x : OrderedStream} {l : List OrderedStream} (hx : x ∈ l) :
    (l.dropWhile (· != x)).head? = some x := by
  induction l with
  | nil => cases hx
  | cons a l ih =>
    by_cases ha : a = x
    · subst ha
      simp
    · have hskip : (a != x) = true := bne_iff_ne.mpr ha
      rw [List.dropWhile_cons, if_pos hskip]
      exact ih ((List.mem_cons.mp hx).resolve_left (Ne.symm ha))

section

variable {streams : StreamId → QueuedStream} {streamPerPacket : Bool}
  {index : Fin kDefaultPriorityLevelsSize} {level : Level} {connWritableBytes : Nat}
  {p : FrameSpace}

theorem ring_order (level : Level) (incremental : Bool) :
    Ring (level.order incremental) level.streams := by
  unfold Level.order
  split
  · exact ⟨_, _, List.takeWhile_append_dropWhile.symm, rfl⟩
  · exact ring_self _

/-- Behind `begin` the iterator is at the first stream of a round. -/
theorem round_begin (h : LevelMarked level) :
    Round index (level.begin (QueueRun.incremental index)) []
      (level.order (QueueRun.incremental index)) := by
  have hring := ring_order level (QueueRun.incremental index)
  cases hincremental : QueueRun.incremental index with
  | true =>
    rw [hincremental] at hring
    have hhead : level.nextStreamIt.or level.streams.head? = (level.order true).head? := by
      unfold Level.order
      cases hnext : level.nextStreamIt with
      | none => rfl
      | some x =>
        dsimp only
        rw [List.head?_append, dropWhile_of_mem (h.marked x hnext)]
        rfl
    refine ⟨h.sorted, ?_, hhead, fun _ => hhead⟩
    rw [hincremental]
    exact hring
  | false =>
    refine ⟨h.sorted, ?_, rfl, fun htrue => ?_⟩
    · rw [hincremental]
      rfl
    · rw [hincremental] at htrue
      cases htrue

/-- What a round says of a run of the loop. -/
def Outcome (order : List OrderedStream) (index : Fin kDefaultPriorityLevelsSize) (run : LevelRun) :
    PassEnd → Prop
  | .through connWritableBytes p => run.ending = .round ∧
      run.connWritableBytes = connWritableBytes ∧ run.space = p ∧ run.offers = passedAll index order
  | .refused connWritableBytes p => run.ending = .refused ∧
      run.connWritableBytes = connWritableBytes ∧ run.space = p ∧ ∃ o ∈ run.offers, o.passed = false
  | .returned => run.ending = .returned
  | .filled _ _ _ _ => run.space.remainingSpaceInPkt = 0

theorem length_le_roundLimit (level : Level) : level.streams.length ≤ roundLimit level := by
  unfold roundLimit
  exact (Nat.le_succ _).trans (Nat.le_mul_of_pos_right _ (Nat.succ_pos _))

theorem outcome_of_run {W : List OrderedStream} {fuel : Nat} (h : Round index level [] W)
    (hW : W ≠ []) (hfuel : W.length ≤ fuel) {run : LevelRun}
    (hrun : writeLevel streams streamPerPacket index fuel level connWritableBytes p = some run) :
    Outcome W index run (pass streams streamPerPacket W connWritableBytes p) := by
  have hmatches := writeLevel_pass streams streamPerPacket connWritableBytes p h hW
    (fun _ hnil => absurd rfl hnil) hfuel
  rw [hrun] at hmatches
  generalize pass streams streamPerPacket W connWritableBytes p = passEnd at hmatches ⊢
  cases passEnd with
  | through c p' =>
    obtain ⟨level', hsame⟩ := hmatches
    cases hsame
    exact ⟨rfl, rfl, rfl, rfl⟩
  | refused c p' =>
    obtain ⟨level', offers, hsame, -, hrefused⟩ := hmatches
    cases hsame
    exact ⟨rfl, rfl, rfl, hrefused⟩
  | returned =>
    obtain ⟨r, hsame, hending, -⟩ := hmatches
    cases hsame
    exact hending
  | filled current rest c p' =>
    obtain ⟨hfull, -, U, fuel', level', -, -, -, -, -, hsame⟩ := hmatches
    obtain ⟨r, hcontinued, rfl⟩ := Option.map_eq_some_iff.mp hsame.symm
    have hspace : r.space = p' := by
      unfold continued at hcontinued
      dsimp only at hcontinued
      split at hcontinued
      · cases hcontinued
        rfl
      · exact writeLevel_full hfull hcontinued
    change r.space.remainingSpaceInPkt = 0
    rw [hspace]
    exact hfull

/-- The first stream of a round is not behind another one. -/
theorem Round.head_ne {u current : OrderedStream} {U rest : List OrderedStream}
    (h : Round index level (u :: U) (current :: rest)) :
    (u :: U ++ current :: rest).head? ≠ some current := by
  intro hsame
  obtain rfl : u = current := by simpa using hsame
  have hnodup := h.nodup
  simp at hnodup

variable (streamPerPacket) in
/-- Behind a stream that has filled the packet, where the loop does not turn. -/
theorem continued_le {U rest : List OrderedStream} {current : OrderedStream} {fuel : Nat}
    (hfull : p.remainingSpaceInPkt = 0) (h : Round index level U (current :: rest))
    (hcount : QueueRun.incremental index = true → U ≠ [] → level.nextsSoFar = 0)
    (hfuel : rest.length < fuel)
    (hspins : ¬ (QueueRun.incremental index = true ∧
      SpinsAt streams (U ++ current :: rest) (.filled current rest connWritableBytes p))) :
    ∃ r, continued streams streamPerPacket index fuel level current connWritableBytes p = some r ∧
      r.offers.length ≤ rest.length + 1 := by
  obtain ⟨fuel, rfl⟩ : ∃ n, fuel = n + 1 := ⟨fuel - 1, by omega⟩
  unfold SpinsAt at hspins
  dsimp only at hspins
  unfold continued
  dsimp only
  by_cases hleaves : Round.Leaves index level false
  · -- The iterator moves on.
    obtain ⟨hlast, hmore⟩ := h.next_leaves hleaves
    by_cases hnil : rest = []
    · rw [if_pos (hlast hnil)]
      exact ⟨_, rfl, Nat.zero_le _⟩
    obtain ⟨hnotEnd, hround, -⟩ := hmore hnil
    rw [hnotEnd, if_neg Bool.false_ne_true]
    have honce : (QueueRun.incremental index = true → level.maxNextsPerStream ≤ 1) →
        ∃ r, writeLevel streams streamPerPacket index (fuel + 1)
          (level.next (QueueRun.incremental index) false current) connWritableBytes p = some r ∧
            r.offers.length ≤ rest.length + 1 := by
      intro hmax
      obtain ⟨r, hr, hlength⟩ := writeLevel_once streams streamPerPacket connWritableBytes
        (fuel + 1) hfull hround hnil
        (fun hincremental => by rw [maxNexts_next]; exact hmax hincremental) (by omega)
      exact ⟨r, hr, hlength.trans (Nat.le_succ _)⟩
    by_cases hincremental : QueueRun.incremental index = true
    · cases U with
      | cons u U =>
        refine honce fun _ => ?_
        have hfew := hleaves hincremental
        rw [hcount hincremental (List.cons_ne_nil u U)] at hfew
        by_contra hmany
        exact hfew ⟨rfl, by omega⟩
      | nil =>
        obtain ⟨t, rest, rfl⟩ := List.exists_cons_of_ne_nil hnil
        have hbusy : ¬ Idle streams connWritableBytes t := by
          intro hidle
          rw [if_pos (by rfl)] at hspins
          exact hspins ⟨hincremental, t, rfl, hidle⟩
        obtain ⟨r, hr, hlength⟩ :=
          writeLevel_busy streams streamPerPacket index fuel hfull hround.next hbusy
        exact ⟨r, hr, by omega⟩
    · exact honce fun htrue => absurd htrue hincremental
  · -- The iterator stays, which is the end of the round for the first stream only.
    obtain ⟨hincremental, -, hstays⟩ : QueueRun.incremental index = true ∧ false = false ∧
        level.nextsSoFar + 1 < level.maxNextsPerStream := by
      unfold Round.Leaves at hleaves
      push Not at hleaves
      exact ⟨hleaves.1, rfl, hleaves.2.2⟩
    obtain ⟨hlevel, hatEnd⟩ := h.next_stays hincremental hstays
    rw [hatEnd, hlevel]
    cases U with
    | nil =>
      rw [if_pos List.isEmpty_nil]
      exact ⟨_, rfl, Nat.zero_le _⟩
    | cons u U =>
      rw [List.isEmpty_cons, if_neg Bool.false_ne_true]
      rw [if_neg h.head_ne] at hspins
      have hbusy : ¬ Idle streams connWritableBytes current := fun hidle =>
        hspins ⟨hincremental, hidle⟩
      obtain ⟨r, hr, hlength⟩ := writeLevel_busy streams streamPerPacket index fuel hfull
        (h.withCount (level.nextsSoFar + 1)).next hbusy
      exact ⟨r, hr, by omega⟩

variable (streamPerPacket) in
/-- Without a place where the loop turns, it comes to a level at most twice as often as there are
streams in it. -/
theorem writeLevel_le {W : List OrderedStream} {fuel : Nat} (h : Round index level [] W)
    (hW : W ≠ [])
    (hfuel : 2 * W.length ≤ fuel)
    (hspins : ¬ (QueueRun.incremental index = true ∧
      SpinsAt streams W (pass streams streamPerPacket W connWritableBytes p))) :
    ∃ run, writeLevel streams streamPerPacket index fuel level connWritableBytes p = some run ∧
      run.offers.length ≤ 2 * W.length := by
  have hmatches := writeLevel_pass streams streamPerPacket connWritableBytes p h hW
    (fun _ hnil => absurd rfl hnil)
    (show W.length ≤ fuel by omega)
  generalize pass streams streamPerPacket W connWritableBytes p = passEnd at hmatches hspins
  cases passEnd with
  | through c p' =>
    obtain ⟨level', hrun⟩ := hmatches
    refine ⟨_, hrun, ?_⟩
    dsimp only [passedAll]
    rw [List.length_map]
    omega
  | refused c p' =>
    obtain ⟨level', offers, hrun, hlength, -⟩ := hmatches
    exact ⟨_, hrun, hlength.trans (by omega)⟩
  | returned =>
    obtain ⟨r, hrun, -, hlength⟩ := hmatches
    exact ⟨r, hrun, hlength.trans (by omega)⟩
  | filled current rest c p' =>
    obtain ⟨hfull, -, U, fuel', level', rfl, rfl, hround, -, hcount, hrun⟩ := hmatches
    rw [List.nil_append] at hround hcount
    rw [List.length_append, List.length_cons] at hfuel
    have henough : rest.length < fuel' := by omega
    obtain ⟨r, hr, hlength⟩ := continued_le streamPerPacket hfull hround
      (fun hincremental hne => by rw [hcount hincremental, if_neg hne]) henough hspins
    rw [hrun, hr]
    refine ⟨_, rfl, ?_⟩
    simp only [passedAll, List.length_append, List.length_map, List.length_cons, List.length_nil]
    omega

/-- With one stream in a packet, no round is left by a full packet. -/
theorem not_spinsAt_of_streamPerPacket {W order : List OrderedStream} :
    ¬ SpinsAt streams order (pass streams true W connWritableBytes p) := by
  induction W generalizing connWritableBytes p with
  | nil => exact id
  | cons x W ih =>
    unfold pass
    dsimp only
    split
    · exact id
    · generalize writeSingleStream (streams x.streamId).nonDsr connWritableBytes p = r
      obtain ⟨passed, c, p'⟩ := r
      dsimp only
      split
      · exact id
      · rw [if_pos rfl]
        exact id

/-- At a place where the loop turns, it turns until the count is full. -/
theorem le_writeLevel_of_spins {W : List OrderedStream} {fuel : Nat} (h : Round index level [] W)
    (hW : W ≠ []) (hfuel : W.length ≤ fuel) (hincremental : QueueRun.incremental index = true)
    (hspins : SpinsAt streams W (pass streams streamPerPacket W connWritableBytes p))
    (hmax : 2 ≤ level.maxNextsPerStream) (hlast : level.nextsSoFar + 1 = level.maxNextsPerStream)
    {run : LevelRun}
    (hrun : writeLevel streams streamPerPacket index fuel level connWritableBytes p = some run) :
    level.maxNextsPerStream ≤ run.offers.length := by
  have hmatches := writeLevel_pass streams streamPerPacket connWritableBytes p h hW
    (fun _ hnil => absurd rfl hnil) hfuel
  rw [hrun] at hmatches
  cases streamPerPacket with
  | true => exact absurd hspins not_spinsAt_of_streamPerPacket
  | false =>
    generalize pass streams false W connWritableBytes p = passEnd at hmatches hspins
    cases passEnd with
    | through c p' => exact hspins.elim
    | refused c p' => exact hspins.elim
    | returned => exact hspins.elim
    | filled current rest c p' =>
      obtain ⟨hfull, -, U, fuel', level', rfl, -, hround, hmax', hcount, hsame⟩ := hmatches
      obtain ⟨r, hcontinued, rfl⟩ := Option.map_eq_some_iff.mp hsame.symm
      rw [List.nil_append] at hround hcount
      have hzero := hcount hincremental
      unfold SpinsAt at hspins
      dsimp only at hspins
      unfold continued at hcontinued
      dsimp only at hcontinued
      dsimp only [passedAll]
      rw [List.length_append, List.length_map, List.length_append, List.length_singleton]
      cases U with
      | nil =>
        -- The first stream has filled the packet, and the count is full there.
        rw [if_pos (by rfl)] at hspins
        obtain ⟨t, hrest, hidle⟩ := hspins
        obtain ⟨rest, rfl⟩ : ∃ ts, rest = t :: ts := by
          cases rest with
          | nil => cases hrest
          | cons t' ts =>
            cases hrest
            exact ⟨ts, rfl⟩
        rw [if_pos rfl] at hzero
        have hleaves : Round.Leaves index level' false := fun _ hstays => by omega
        obtain ⟨-, hmore⟩ := hround.next_leaves hleaves
        obtain ⟨hnotEnd, hround', hzero'⟩ := hmore (List.cons_ne_nil t rest)
        rw [hnotEnd, if_neg Bool.false_ne_true] at hcontinued
        have hturns := writeLevel_spins hfull hround' (by simp) hincremental hidle hcontinued
          (by rw [hzero' hincremental, maxNexts_next, hmax']; omega)
        rw [hzero' hincremental, maxNexts_next, hmax'] at hturns
        omega
      | cons u U =>
        rw [if_neg hround.head_ne] at hspins
        rw [if_neg (List.cons_ne_nil u U)] at hzero
        obtain ⟨hlevel, hatEnd⟩ := hround.next_stays hincremental (by omega)
        rw [hatEnd, hlevel, List.isEmpty_cons, if_neg Bool.false_ne_true] at hcontinued
        have hturns := writeLevel_spins hfull (hround.withCount _) (List.cons_ne_nil u U)
          hincremental hspins hcontinued (by dsimp only; omega)
        dsimp only at hturns
        omega

end

end StreamFrameScheduler

end MasqueQuic
