/-
`PriorityQueue`: the streams that may be written, by priority (`quic/state/QuicPriorityQueue.h`).

A level holds its streams in an ordered set, by order id and then by stream id, and remembers order
ids in a map of its own, from which nothing is removed and into which 0 is not written. To erase a
stream the level looks for it under the remembered order id. `QueueRun` puts the latest priority of
each stream beside the queue; `represents_iff` says in which runs the queue agrees with it.
-/

import Mathlib.Data.Fin.Basic
import MasqueQuic.Lib.Run
import MasqueQuic.Quic.FlowControl

namespace MasqueQuic

/-! ### Ordered sets -/

structure OrderedStream where
  streamId : StreamId
  orderId : Nat
  deriving DecidableEq

/-- `ordered_stream_cmp`. -/
def OrderedStream.Before (a b : OrderedStream) : Prop :=
  if a.orderId = b.orderId then a.streamId < b.streamId else a.orderId < b.orderId

instance (a b : OrderedStream) : Decidable (a.Before b) :=
  inferInstanceAs (Decidable
    (if a.orderId = b.orderId then a.streamId < b.streamId else a.orderId < b.orderId))

/-- The elements of an `OrderedStreamSet`, in their order. -/
abbrev OrderedStreamSet := List OrderedStream

namespace OrderedStreamSet

def insert (s : OrderedStream) : OrderedStreamSet → OrderedStreamSet
  | [] => [s]
  | a :: rest =>
      if s.Before a then s :: a :: rest
      else if a.Before s then a :: insert s rest
      else a :: rest

/-- The element that an iterator to `s` moves to. -/
def successor (s : OrderedStream) (streams : OrderedStreamSet) : Option OrderedStream :=
  streams.find? fun a => s.Before a

def Sorted (streams : OrderedStreamSet) : Prop := streams.Pairwise OrderedStream.Before

end OrderedStreamSet

theorem OrderedStream.not_before_self (a : OrderedStream) : ¬ a.Before a := by
  unfold Before
  rw [if_pos rfl]
  exact Nat.lt_irrefl _

theorem OrderedStream.Before.trans {a b c : OrderedStream} (hab : a.Before b) (hbc : b.Before c) :
    a.Before c := by
  unfold Before at *
  split at hab
  · next h =>
      rw [h]
      split at hbc
      · next h' =>
          rw [if_pos h']
          exact Nat.lt_trans hab hbc
      · next h' =>
          rw [if_neg h']
          exact hbc
  · next h =>
      split at hbc
      · next h' =>
          rw [← h', if_neg h]
          exact hab
      · next h' =>
          have hlt := Nat.lt_trans hab hbc
          rw [if_neg (Nat.ne_of_lt hlt)]
          exact hlt

/-- Elements that the order does not tell apart are the same. -/
theorem OrderedStream.eq_of_not_before {a b : OrderedStream} (hab : ¬ a.Before b)
    (hba : ¬ b.Before a) : a = b := by
  obtain ⟨id, orderId⟩ := a
  obtain ⟨id', orderId'⟩ := b
  unfold Before at hab hba
  by_cases h : orderId = orderId'
  · rw [if_pos h] at hab
    rw [if_pos h.symm] at hba
    have hid : id = id' := Nat.le_antisymm (Nat.not_lt.mp hba) (Nat.not_lt.mp hab)
    rw [h, hid]
  · rw [if_neg h] at hab
    rw [if_neg (Ne.symm h)] at hba
    exact absurd (Nat.le_antisymm (Nat.not_lt.mp hba) (Nat.not_lt.mp hab)) h

namespace OrderedStreamSet

theorem Sorted.nodup {streams : OrderedStreamSet} (h : Sorted streams) : streams.Nodup := by
  refine h.imp fun {a b} hab heq => ?_
  rw [heq] at hab
  exact b.not_before_self hab

@[simp] theorem mem_insert {s e : OrderedStream} {streams : OrderedStreamSet} :
    e ∈ insert s streams ↔ e = s ∨ e ∈ streams := by
  induction streams with
  | nil => simp [insert]
  | cons a rest ih =>
    unfold insert
    split
    · exact List.mem_cons
    · next hsa =>
        split
        · rw [List.mem_cons, ih, List.mem_cons]
          exact or_left_comm
        · next has =>
            have heq := OrderedStream.eq_of_not_before hsa has
            rw [heq, List.mem_cons]
            exact ⟨.inr, fun h => h.elim .inl id⟩

theorem Sorted.insert {streams : OrderedStreamSet} (h : Sorted streams) (s : OrderedStream) :
    Sorted (insert s streams) := by
  induction streams with
  | nil => exact List.pairwise_singleton _ _
  | cons a rest ih =>
    obtain ⟨ha, hrest⟩ := List.pairwise_cons.mp h
    unfold OrderedStreamSet.insert
    split
    · next hsa =>
        refine List.pairwise_cons.mpr ⟨fun b hb => ?_, h⟩
        rcases List.mem_cons.mp hb with rfl | hb
        · exact hsa
        · exact hsa.trans (ha b hb)
    · split
      · next has =>
          refine List.pairwise_cons.mpr ⟨fun b hb => ?_, ih hrest⟩
          rcases mem_insert.mp hb with rfl | hb
          · exact has
          · exact ha b hb
      · exact h

theorem mem_of_successor {s e : OrderedStream} {streams : OrderedStreamSet}
    (h : successor s streams = some e) : e ∈ streams ∧ s.Before e :=
  ⟨List.mem_of_find?_eq_some h, by simpa using List.find?_some h⟩

end OrderedStreamSet

/-! ### The queue -/

/-- A level of 3 bits, whether the level is incremental, and the order in it. -/
structure Priority where
  level : Fin 8
  incremental : Bool
  orderId : Nat
  deriving DecidableEq

def kDefaultPriorityLevelsSize : Nat := 16

def priority2index (pri : Priority) : Fin kDefaultPriorityLevelsSize where
  val := pri.level * 2 + pri.incremental.toNat
  isLt := by
    have hlevel := pri.level.isLt
    have hflag := Bool.toNat_lt pri.incremental
    unfold kDefaultPriorityLevelsSize
    omega

/-- An iterator is the element that it refers to, or `none` at the end. -/
structure Level where
  streams : OrderedStreamSet
  streamToOrderId : StreamId → Option Nat
  nextStreamIt : Option OrderedStream
  startStreamIt : Option OrderedStream
  nextsSoFar : Nat
  maxNextsPerStream : Nat

namespace Level

def getOrderedStream (level : Level) (id : StreamId) : OrderedStream :=
  ⟨id, (level.streamToOrderId id).getD 0⟩

def insert (level : Level) (streamId : StreamId) (orderId : Nat) : Level :=
  { level with
    streams := OrderedStreamSet.insert ⟨streamId, orderId⟩ level.streams
    streamToOrderId :=
      if orderId > 0 then Function.update level.streamToOrderId streamId (some orderId)
      else level.streamToOrderId }

/-- An iterator to the stream moves on. -/
def eraseStream (level : Level) (stream : OrderedStream) : Level :=
  if level.nextStreamIt = some stream then
    { level with
      streams := level.streams.erase stream
      nextStreamIt := OrderedStreamSet.successor stream level.streams
      nextsSoFar := 0 }
  else { level with streams := level.streams.erase stream }

def begin (level : Level) (incremental : Bool) : Level :=
  if incremental then
    let nextStreamIt := level.nextStreamIt.or level.streams.head?
    { level with nextStreamIt, startStreamIt := nextStreamIt }
  else { level with nextStreamIt := level.streams.head? }

/-- `next` with an iterator to `current`. -/
def next (level : Level) (incremental force : Bool) (current : OrderedStream) : Level :=
  let following := OrderedStreamSet.successor current level.streams
  if incremental then
    if force = false ∧ level.nextsSoFar + 1 < level.maxNextsPerStream then
      { level with nextsSoFar := level.nextsSoFar + 1 }
    else { level with
      nextStreamIt := following.or level.streams.head?
      nextsSoFar := 0 }
  else { level with nextStreamIt := following }

end Level

structure PriorityQueue where
  levels : Fin kDefaultPriorityLevelsSize → Level
  writableStreamsToLevel : StreamId → Option (Fin kDefaultPriorityLevelsSize)
  /-- "not found in PriorityQueue level" has been logged. -/
  notFound : Bool

namespace PriorityQueue

def new (maxNextsPerStream : Nat) : PriorityQueue where
  levels _ := ⟨[], fun _ => none, none, none, 0, maxNextsPerStream⟩
  writableStreamsToLevel _ := none
  notFound := false

def eraseFromLevel (q : PriorityQueue) (index : Fin kDefaultPriorityLevelsSize) (id : StreamId) :
    PriorityQueue :=
  let stream := (q.levels index).getOrderedStream id
  if stream ∈ (q.levels index).streams then
    { q with levels := Function.update q.levels index ((q.levels index).eraseStream stream) }
  else { q with notFound := true }

def insertIntoLevel (q : PriorityQueue) (id : StreamId) (pri : Priority) : PriorityQueue :=
  { q with
    writableStreamsToLevel :=
      Function.update q.writableStreamsToLevel id (some (priority2index pri))
    levels := Function.update q.levels (priority2index pri)
      ((q.levels (priority2index pri)).insert id pri.orderId) }

def updateExistingStreamPriority (q : PriorityQueue) (id : StreamId)
    (index : Fin kDefaultPriorityLevelsSize) (pri : Priority) : PriorityQueue :=
  if index = priority2index pri then q else (q.eraseFromLevel index id).insertIntoLevel id pri

def updateIfExist (q : PriorityQueue) (id : StreamId) (pri : Priority) : PriorityQueue :=
  match q.writableStreamsToLevel id with
  | some index => q.updateExistingStreamPriority id index pri
  | none => q

def insertOrUpdate (q : PriorityQueue) (id : StreamId) (pri : Priority) : PriorityQueue :=
  match q.writableStreamsToLevel id with
  | some index => q.updateExistingStreamPriority id index pri
  | none => q.insertIntoLevel id pri

def erase (q : PriorityQueue) (id : StreamId) : PriorityQueue :=
  match q.writableStreamsToLevel id with
  | some index =>
      let q := q.eraseFromLevel index id
      { q with writableStreamsToLevel := Function.update q.writableStreamsToLevel id none }
  | none => q

def withLevel (q : PriorityQueue) (index : Fin kDefaultPriorityLevelsSize) (level : Level) :
    PriorityQueue :=
  { q with levels := Function.update q.levels index level }

end PriorityQueue

/-! ### Runs -/

inductive QueueEvent where
  | insertOrUpdate (id : StreamId) (pri : Priority)
  | updateIfExist (id : StreamId) (pri : Priority)
  | erase (id : StreamId)
  | begin (index : Fin kDefaultPriorityLevelsSize)
  | next (index : Fin kDefaultPriorityLevelsSize) (force : Bool)

inductive IteratorFault where
  /-- `CHECK(!level.empty())`, or an iterator at the end that is moved on. -/
  | atEnd

/-- A queue, with the latest priority of each stream that has been inserted and not erased since. -/
structure QueueRun where
  queue : PriorityQueue
  latest : StreamId → Option Priority

namespace QueueRun

def new (maxNextsPerStream : Nat) : QueueRun := ⟨.new maxNextsPerStream, fun _ => none⟩

/-- The odd levels are incremental. -/
def incremental (index : Fin kDefaultPriorityLevelsSize) : Bool := index.val % 2 == 1

def step (c : QueueRun) : QueueEvent → Except IteratorFault QueueRun
  | .insertOrUpdate id pri =>
      .ok ⟨c.queue.insertOrUpdate id pri, Function.update c.latest id (some pri)⟩
  | .updateIfExist id pri => .ok ⟨c.queue.updateIfExist id pri,
      if (c.latest id).isSome then Function.update c.latest id (some pri) else c.latest⟩
  | .erase id => .ok ⟨c.queue.erase id, Function.update c.latest id none⟩
  | .begin index => .ok { c with
      queue := c.queue.withLevel index ((c.queue.levels index).begin (incremental index)) }
  | .next index force =>
      match (c.queue.levels index).nextStreamIt with
      | none => .error .atEnd
      | some current => .ok { c with
          queue := c.queue.withLevel index
            ((c.queue.levels index).next (incremental index) force current) }

/-- The queue holds each stream once, under its latest priority, and no other stream. -/
structure Represents (c : QueueRun) : Prop where
  level : ∀ id, c.queue.writableStreamsToLevel id = (c.latest id).map priority2index
  entries : ∀ index e, e ∈ (c.queue.levels index).streams ↔
    ∃ pri, c.latest e.streamId = some pri ∧ priority2index pri = index ∧ pri.orderId = e.orderId
  once : ∀ index, (c.queue.levels index).streams.Nodup
  next : ∀ index e, (c.queue.levels index).nextStreamIt = some e →
    e ∈ (c.queue.levels index).streams
  found : c.queue.notFound = false

/-- The level looks for the stream where its latest priority has put it. -/
def Remembers (c : QueueRun) (id : StreamId) (pri : Priority) : Prop :=
  (c.queue.levels (priority2index pri)).getOrderedStream id = ⟨id, pri.orderId⟩

/-- A stream that stays in its level keeps its order id, and one that leaves it is found there. -/
def StepOk (c : QueueRun) : QueueEvent → Prop
  | .insertOrUpdate id pri | .updateIfExist id pri => ∀ old, c.latest id = some old →
      if priority2index old = priority2index pri then old.orderId = pri.orderId
      else c.Remembers id old
  | .erase id => ∀ old, c.latest id = some old → c.Remembers id old
  | .begin _ | .next _ _ => True

end QueueRun

/-! ### One level -/

namespace Level

theorem sorted_eraseStream {level : Level} (h : OrderedStreamSet.Sorted level.streams)
    (stream : OrderedStream) : OrderedStreamSet.Sorted (level.eraseStream stream).streams := by
  unfold eraseStream
  split
  · exact h.sublist List.erase_sublist
  · exact h.sublist List.erase_sublist

theorem streams_eraseStream (level : Level) (stream : OrderedStream) :
    (level.eraseStream stream).streams = level.streams.erase stream := by
  unfold eraseStream
  split
  · rfl
  · rfl

/-- The iterator leaves the element that is erased. -/
theorem next_eraseStream {level : Level} {stream e : OrderedStream}
    (hnext : ∀ e, level.nextStreamIt = some e → e ∈ level.streams)
    (h : (level.eraseStream stream).nextStreamIt = some e) :
    e ∈ (level.eraseStream stream).streams := by
  rw [streams_eraseStream]
  unfold eraseStream at h
  split at h
  · obtain ⟨hmem, hbefore⟩ := OrderedStreamSet.mem_of_successor h
    refine (List.mem_erase_of_ne ?_).mpr hmem
    rintro rfl
    exact e.not_before_self hbefore
  · next hne =>
      refine (List.mem_erase_of_ne ?_).mpr (hnext e h)
      rintro rfl
      exact hne h

theorem streams_begin (level : Level) (incremental : Bool) :
    (level.begin incremental).streams = level.streams := by
  unfold begin
  split
  · rfl
  · rfl

theorem next_begin {level : Level} {incremental : Bool} {e : OrderedStream}
    (hnext : ∀ e, level.nextStreamIt = some e → e ∈ level.streams)
    (h : (level.begin incremental).nextStreamIt = some e) : e ∈ level.streams := by
  unfold begin at h
  split at h
  · rcases Option.or_eq_some_iff.mp h with h | ⟨-, h⟩
    · exact hnext e h
    · exact List.mem_of_head? h
  · exact List.mem_of_head? h

theorem streams_next (level : Level) (incremental force : Bool) (current : OrderedStream) :
    (level.next incremental force current).streams = level.streams := by
  unfold next
  dsimp only
  split
  · split
    · rfl
    · rfl
  · rfl

theorem next_next {level : Level} {incremental force : Bool} {current e : OrderedStream}
    (hnext : ∀ e, level.nextStreamIt = some e → e ∈ level.streams)
    (h : (level.next incremental force current).nextStreamIt = some e) : e ∈ level.streams := by
  unfold next at h
  dsimp only at h
  split at h
  · split at h
    · exact hnext e h
    · rcases Option.or_eq_some_iff.mp h with h | ⟨-, h⟩
      · exact (OrderedStreamSet.mem_of_successor h).1
      · exact List.mem_of_head? h
  · exact (OrderedStreamSet.mem_of_successor h).1

end Level

/-! ### The levels together -/

namespace PriorityQueue

def Sorted (q : PriorityQueue) : Prop :=
  ∀ index, OrderedStreamSet.Sorted (q.levels index).streams

def LevelsOf (q : PriorityQueue) (latest : StreamId → Option Priority) : Prop :=
  ∀ id, q.writableStreamsToLevel id = (latest id).map priority2index

/-- `QueueRun.Represents`, without the map from streams to levels. -/
structure Holds (q : PriorityQueue) (latest : StreamId → Option Priority) : Prop where
  entries : ∀ index e, e ∈ (q.levels index).streams ↔
    ∃ pri, latest e.streamId = some pri ∧ priority2index pri = index ∧ pri.orderId = e.orderId
  next : ∀ index e, (q.levels index).nextStreamIt = some e → e ∈ (q.levels index).streams
  found : q.notFound = false

variable (q : PriorityQueue) {index other : Fin kDefaultPriorityLevelsSize} (level : Level)

@[simp] theorem levels_withLevel : (q.withLevel index level).levels index = level :=
  Function.update_self ..

theorem levels_withLevel_of_ne (h : other ≠ index) :
    (q.withLevel index level).levels other = q.levels other :=
  Function.update_of_ne h ..

@[simp] theorem levels_insertIntoLevel (id : StreamId) (pri : Priority) :
    (q.insertIntoLevel id pri).levels (priority2index pri) =
      (q.levels (priority2index pri)).insert id pri.orderId :=
  Function.update_self ..

theorem levels_insertIntoLevel_of_ne (id : StreamId) {pri : Priority}
    (h : other ≠ priority2index pri) : (q.insertIntoLevel id pri).levels other = q.levels other :=
  Function.update_of_ne h ..

end PriorityQueue

namespace PriorityQueue

theorem Sorted.withLevel {q : PriorityQueue} (h : q.Sorted)
    {index : Fin kDefaultPriorityLevelsSize} {level : Level}
    (hlevel : OrderedStreamSet.Sorted level.streams) : (q.withLevel index level).Sorted := by
  intro other
  by_cases heq : other = index
  · rw [heq, levels_withLevel]
    exact hlevel
  · rw [levels_withLevel_of_ne _ _ heq]
    exact h other

theorem Sorted.eraseFromLevel {q : PriorityQueue} (h : q.Sorted)
    (index : Fin kDefaultPriorityLevelsSize) (id : StreamId) :
    (q.eraseFromLevel index id).Sorted := by
  unfold PriorityQueue.eraseFromLevel
  dsimp only
  split
  · exact h.withLevel (Level.sorted_eraseStream (h index) _)
  · exact h

theorem Sorted.insertIntoLevel {q : PriorityQueue} (h : q.Sorted) (id : StreamId)
    (pri : Priority) : (q.insertIntoLevel id pri).Sorted :=
  h.withLevel (OrderedStreamSet.Sorted.insert (h (priority2index pri)) ⟨id, pri.orderId⟩)

theorem Sorted.updateExistingStreamPriority {q : PriorityQueue} (h : q.Sorted) (id : StreamId)
    (index : Fin kDefaultPriorityLevelsSize) (pri : Priority) :
    (q.updateExistingStreamPriority id index pri).Sorted := by
  unfold PriorityQueue.updateExistingStreamPriority
  split
  · exact h
  · exact (h.eraseFromLevel index id).insertIntoLevel id pri

/-- A level may move its iterator. -/
theorem Holds.withLevel {q : PriorityQueue} {latest : StreamId → Option Priority}
    (h : q.Holds latest) {index : Fin kDefaultPriorityLevelsSize} {level : Level}
    (hstreams : level.streams = (q.levels index).streams)
    (hnext : ∀ e, level.nextStreamIt = some e → e ∈ (q.levels index).streams) :
    (q.withLevel index level).Holds latest where
  entries other e := by
    by_cases heq : other = index
    · subst heq
      rw [levels_withLevel, hstreams]
      exact h.entries other e
    · rw [levels_withLevel_of_ne _ _ heq]
      exact h.entries other e
  next other e he := by
    by_cases heq : other = index
    · subst heq
      rw [levels_withLevel] at he ⊢
      rw [hstreams]
      exact hnext e he
    · rw [levels_withLevel_of_ne _ _ heq] at he ⊢
      exact h.next other e he
  found := h.found

theorem eraseFromLevel_of_mem {q : PriorityQueue} {index : Fin kDefaultPriorityLevelsSize}
    {id : StreamId} (h : (q.levels index).getOrderedStream id ∈ (q.levels index).streams) :
    q.eraseFromLevel index id = q.withLevel index
      ((q.levels index).eraseStream ((q.levels index).getOrderedStream id)) := by
  unfold eraseFromLevel
  exact if_pos h

theorem Holds.eraseFromLevel {q : PriorityQueue} {latest : StreamId → Option Priority}
    (h : q.Holds latest) (hsorted : q.Sorted) {id : StreamId} {pri : Priority}
    (hpri : latest id = some pri)
    (hid : (q.levels (priority2index pri)).getOrderedStream id = ⟨id, pri.orderId⟩) :
    (q.eraseFromLevel (priority2index pri) id).Holds (Function.update latest id none) := by
  have hmem : (q.levels (priority2index pri)).getOrderedStream id ∈
      (q.levels (priority2index pri)).streams := by
    rw [hid]
    exact (h.entries _ _).mpr ⟨pri, hpri, rfl, rfl⟩
  rw [eraseFromLevel_of_mem hmem, hid]
  constructor
  · intro index e
    have hothers : (∃ pri, Function.update latest id none e.streamId = some pri ∧
        priority2index pri = index ∧ pri.orderId = e.orderId) ↔
        e.streamId ≠ id ∧ e ∈ (q.levels index).streams := by
      rw [h.entries]
      by_cases he : e.streamId = id
      · rw [he, Function.update_self]
        simp
      · rw [Function.update_of_ne he]
        simp [he]
    rw [hothers]
    by_cases heq : index = priority2index pri
    · subst heq
      rw [levels_withLevel, Level.streams_eraseStream,
        (hsorted (priority2index pri)).nodup.mem_erase_iff]
      refine and_congr_left fun he => ?_
      -- an entry of the stream is the one that is erased
      constructor
      · intro hne hidEq
        obtain ⟨other, hother, -, horder⟩ := (h.entries _ _).mp he
        rw [hidEq, hpri, Option.some.injEq] at hother
        refine hne ?_
        rw [← hidEq, hother, horder]
      · rintro hne rfl
        exact hne rfl
    · rw [levels_withLevel_of_ne _ _ heq]
      refine ⟨fun he => ⟨?_, he⟩, fun he => he.2⟩
      rintro hidEq
      obtain ⟨other, hother, hindex, -⟩ := (h.entries _ _).mp he
      rw [hidEq, hpri, Option.some.injEq] at hother
      exact heq (by rw [hother, hindex])
  · intro index e he
    by_cases heq : index = priority2index pri
    · subst heq
      rw [levels_withLevel] at he ⊢
      exact Level.next_eraseStream (h.next (priority2index pri)) he
    · rw [levels_withLevel_of_ne _ _ heq] at he ⊢
      exact h.next index e he
  · exact h.found

/-- A stream that has moved out of its place is not found. -/
theorem Holds.notFound {q : PriorityQueue} {latest : StreamId → Option Priority}
    (h : q.Holds latest) {id : StreamId} {pri : Priority} (hpri : latest id = some pri)
    (hid : (q.levels (priority2index pri)).getOrderedStream id ≠ ⟨id, pri.orderId⟩) :
    (q.eraseFromLevel (priority2index pri) id).notFound = true := by
  unfold PriorityQueue.eraseFromLevel
  dsimp only
  split
  · next hmem =>
      obtain ⟨other, hother, -, horder⟩ := (h.entries _ _).mp hmem
      rw [Level.getOrderedStream] at hother horder
      rw [hpri, Option.some.injEq] at hother
      subst hother
      exact absurd (congrArg (OrderedStream.mk id) horder.symm) hid
  · rfl

theorem Holds.insertIntoLevel {q : PriorityQueue} {latest : StreamId → Option Priority}
    (h : q.Holds latest) {id : StreamId} (hid : latest id = none) (pri : Priority) :
    (q.insertIntoLevel id pri).Holds (Function.update latest id (some pri)) := by
  constructor
  · intro index e
    have hall : (∃ other, Function.update latest id (some pri) e.streamId = some other ∧
        priority2index other = index ∧ other.orderId = e.orderId) ↔
        (index = priority2index pri ∧ e = ⟨id, pri.orderId⟩) ∨
          e ∈ (q.levels index).streams := by
      rw [h.entries]
      by_cases he : e.streamId = id
      · obtain ⟨streamId, orderId⟩ := e
        dsimp only at he
        subst he
        rw [Function.update_self, hid]
        simp [eq_comm]
      · rw [Function.update_of_ne he]
        have hne : e ≠ ⟨id, pri.orderId⟩ := fun heq => he (by rw [heq])
        simp [hne]
    rw [hall]
    by_cases heq : index = priority2index pri
    · subst heq
      rw [levels_insertIntoLevel]
      refine OrderedStreamSet.mem_insert.trans ?_
      simp
    · rw [levels_insertIntoLevel_of_ne _ _ heq]
      simp [heq]
  · intro index e he
    by_cases heq : index = priority2index pri
    · subst heq
      rw [levels_insertIntoLevel] at he ⊢
      exact OrderedStreamSet.mem_insert.mpr (.inr (h.next _ e he))
    · rw [levels_insertIntoLevel_of_ne _ _ heq] at he ⊢
      exact h.next index e he
  · exact h.found

theorem LevelsOf.update {q : PriorityQueue} {latest : StreamId → Option Priority}
    (h : q.LevelsOf latest) (id : StreamId) (pri : Option Priority) (other : StreamId) :
    Function.update q.writableStreamsToLevel id (pri.map priority2index) other =
      (Function.update latest id pri other).map priority2index := by
  by_cases heq : other = id
  · rw [heq, Function.update_self, Function.update_self]
  · rw [Function.update_of_ne heq, Function.update_of_ne heq]
    exact h other

theorem writableStreamsToLevel_eraseFromLevel (q : PriorityQueue)
    (index : Fin kDefaultPriorityLevelsSize) (id : StreamId) :
    (q.eraseFromLevel index id).writableStreamsToLevel = q.writableStreamsToLevel := by
  unfold eraseFromLevel
  dsimp only
  split
  · rfl
  · rfl

theorem LevelsOf.insertIntoLevel {q : PriorityQueue} {latest : StreamId → Option Priority}
    (h : q.LevelsOf latest) (id : StreamId) (pri : Priority) :
    (q.insertIntoLevel id pri).LevelsOf (Function.update latest id (some pri)) :=
  h.update id (some pri)

theorem LevelsOf.eraseFromLevel {q : PriorityQueue} {latest : StreamId → Option Priority}
    (h : q.LevelsOf latest) (index : Fin kDefaultPriorityLevelsSize) (id : StreamId) :
    (q.eraseFromLevel index id).LevelsOf latest := by
  intro other
  rw [writableStreamsToLevel_eraseFromLevel]
  exact h other

/-- A new priority of the same level changes nothing. -/
theorem sameLevel_iff {q : PriorityQueue} {latest : StreamId → Option Priority}
    (hlevels : q.LevelsOf latest) (h : q.Holds latest) {id : StreamId} {old pri : Priority}
    (hold : latest id = some old) (heq : priority2index old = priority2index pri) :
    (q.LevelsOf (Function.update latest id (some pri)) ∧
      q.Holds (Function.update latest id (some pri))) ↔ old.orderId = pri.orderId := by
  constructor
  · rintro ⟨-, hnew⟩
    have hmem : OrderedStream.mk id pri.orderId ∈ (q.levels (priority2index pri)).streams :=
      (hnew.entries _ _).mpr ⟨pri, Function.update_self .., rfl, rfl⟩
    obtain ⟨other, hother, -, horder⟩ := (h.entries _ _).mp hmem
    rw [hold, Option.some.injEq] at hother
    rw [hother, horder]
  · intro horder
    refine ⟨fun other => ?_, fun index e => ?_, h.next, h.found⟩
    · by_cases hid : other = id
      · rw [hid, Function.update_self, hlevels, hold, Option.map_some, Option.map_some, heq]
      · rw [Function.update_of_ne hid]
        exact hlevels other
    · rw [h.entries]
      by_cases hid : e.streamId = id
      · rw [hid, Function.update_self, hold]
        simp [heq, horder]
      · rw [Function.update_of_ne hid]

theorem updateExistingStreamPriority_iff {q : PriorityQueue}
    {latest : StreamId → Option Priority} (hsorted : q.Sorted) (hlevels : q.LevelsOf latest)
    (h : q.Holds latest) {id : StreamId} {old pri : Priority} (hold : latest id = some old) :
    let q' := q.updateExistingStreamPriority id (priority2index old) pri
    (q'.LevelsOf (Function.update latest id (some pri)) ∧
      q'.Holds (Function.update latest id (some pri))) ↔
      if priority2index old = priority2index pri then old.orderId = pri.orderId
      else (q.levels (priority2index old)).getOrderedStream id = ⟨id, old.orderId⟩ := by
  intro q'
  by_cases heq : priority2index old = priority2index pri
  · have hsame : q' = q := if_pos heq
    rw [if_pos heq, hsame]
    exact sameLevel_iff hlevels h hold heq
  · have hmoved : q' = (q.eraseFromLevel (priority2index old) id).insertIntoLevel id pri :=
      if_neg heq
    rw [if_neg heq, hmoved]
    constructor
    · rintro ⟨-, hnew⟩
      by_contra hid
      exact absurd hnew.found (by
        rw [PriorityQueue.insertIntoLevel, h.notFound hold hid]
        exact Bool.noConfusion)
    · intro hid
      have hinserted := (h.eraseFromLevel hsorted hold hid).insertIntoLevel
        (Function.update_self ..) pri
      rw [Function.update_idem] at hinserted
      exact ⟨(hlevels.eraseFromLevel _ id).insertIntoLevel id pri, hinserted⟩

theorem erase_iff {q : PriorityQueue} {latest : StreamId → Option Priority}
    (hsorted : q.Sorted) (hlevels : q.LevelsOf latest) (h : q.Holds latest) {id : StreamId}
    {old : Priority} (hold : latest id = some old) :
    ((q.erase id).LevelsOf (Function.update latest id none) ∧
      (q.erase id).Holds (Function.update latest id none)) ↔
      (q.levels (priority2index old)).getOrderedStream id = ⟨id, old.orderId⟩ := by
  have hid : q.writableStreamsToLevel id = some (priority2index old) := by
    rw [hlevels, hold, Option.map_some]
  unfold erase
  rw [hid]
  dsimp only
  constructor
  · rintro ⟨-, hnew⟩
    by_contra hne
    have hfound := hnew.found
    rw [h.notFound hold hne] at hfound
    cases hfound
  · intro heq
    have herased := h.eraseFromLevel hsorted hold heq
    exact ⟨(hlevels.eraseFromLevel _ id).update id none,
      herased.entries, herased.next, herased.found⟩

end PriorityQueue

/-! ### The queue in a run -/

namespace QueueRun

variable {c c' : QueueRun}

theorem represents_iff_holds (hsorted : c.queue.Sorted) : c.Represents ↔
    c.queue.LevelsOf c.latest ∧ c.queue.Holds c.latest :=
  ⟨fun h => ⟨h.level, h.entries, h.next, h.found⟩,
    fun h => ⟨h.1, h.2.entries, fun index => (hsorted index).nodup, h.2.next, h.2.found⟩⟩

theorem step_sorted (e : QueueEvent) (h : c.queue.Sorted) (hstep : c.step e = .ok c') :
    c'.queue.Sorted := by
  cases e with
  | insertOrUpdate id pri =>
    cases hstep
    dsimp only
    unfold PriorityQueue.insertOrUpdate
    split
    · exact h.updateExistingStreamPriority id _ pri
    · exact h.insertIntoLevel id pri
  | updateIfExist id pri =>
    cases hstep
    dsimp only
    unfold PriorityQueue.updateIfExist
    split
    · exact h.updateExistingStreamPriority id _ pri
    · exact h
  | erase id =>
    cases hstep
    dsimp only
    unfold PriorityQueue.erase
    split
    · exact h.eraseFromLevel _ id
    · exact h
  | begin index =>
    cases hstep
    refine h.withLevel ?_
    rw [Level.streams_begin]
    exact h index
  | next index force =>
    dsimp only [step] at hstep
    split at hstep
    · cases hstep
    · cases hstep
      refine h.withLevel ?_
      rw [Level.streams_next]
      exact h index

/-- One step from a queue that represents its run does so again exactly if it meets the
condition. -/
theorem step_represents_iff {e : QueueEvent} (hsorted : c.queue.Sorted) (h : c.Represents)
    (hstep : c.step e = .ok c') : c'.Represents ↔ c.StepOk e := by
  rw [represents_iff_holds (step_sorted e hsorted hstep)]
  obtain ⟨hlevel, hholds⟩ := (represents_iff_holds hsorted).mp h
  cases e with
  | insertOrUpdate id pri =>
    cases hstep
    dsimp only [StepOk]
    unfold PriorityQueue.insertOrUpdate
    rw [hlevel id]
    cases hid : c.latest id with
    | none =>
      refine iff_of_true ⟨hlevel.insertIntoLevel id pri, hholds.insertIntoLevel hid pri⟩ ?_
      intro old hold
      cases hold
    | some old =>
      simp only [Option.some.injEq, forall_eq']
      exact PriorityQueue.updateExistingStreamPriority_iff hsorted hlevel hholds hid
  | updateIfExist id pri =>
    cases hstep
    dsimp only [StepOk]
    unfold PriorityQueue.updateIfExist
    rw [hlevel id]
    cases hid : c.latest id with
    | none =>
      refine iff_of_true ⟨hlevel, hholds⟩ ?_
      intro old hold
      cases hold
    | some old =>
      simp only [Option.some.injEq, forall_eq']
      exact PriorityQueue.updateExistingStreamPriority_iff hsorted hlevel hholds hid
  | erase id =>
    cases hstep
    dsimp only [StepOk]
    cases hid : c.latest id with
    | none =>
      have hnone : c.queue.erase id = c.queue := by
        unfold PriorityQueue.erase
        rw [hlevel id, hid]
        rfl
      have hlatest : Function.update c.latest id none = c.latest := by
        rw [← hid]
        exact Function.update_eq_self id c.latest
      rw [hnone, hlatest]
      refine iff_of_true ⟨hlevel, hholds⟩ ?_
      intro old hold
      cases hold
    | some old =>
      simp only [Option.some.injEq, forall_eq']
      exact PriorityQueue.erase_iff hsorted hlevel hholds hid
  | begin index =>
    cases hstep
    exact iff_of_true ⟨hlevel, hholds.withLevel (Level.streams_begin _ _)
      fun e => Level.next_begin (hholds.next index)⟩ trivial
  | next index force =>
    dsimp only [step] at hstep
    split at hstep
    · cases hstep
    · cases hstep
      exact iff_of_true ⟨hlevel, hholds.withLevel (Level.streams_next _ _ _ _)
        fun e => Level.next_next (hholds.next index)⟩ trivial

theorem new_represents (maxNextsPerStream : Nat) : (new maxNextsPerStream).Represents where
  level _ := rfl
  entries index e := by
    refine iff_of_false List.not_mem_nil ?_
    rintro ⟨pri, hpri, -⟩
    cases hpri
  once _ := List.nodup_nil
  next index e he := by cases he
  found := rfl

/-- The queue represents its run in every state of a run exactly if every step keeps the order id
of a stream that stays in its level and removes a stream from where it is remembered. -/
theorem represents_iff (maxNextsPerStream : Nat) (events : List QueueEvent) :
    (∀ before c, before <+: events →
      before.foldlM step (new maxNextsPerStream) = .ok c → c.Represents) ↔
    Meets step StepOk (new maxNextsPerStream) events := by
  apply @never_bad_iff_meets QueueRun QueueEvent IteratorFault step StepOk
    (fun c => c.queue.Sorted) Represents
  · intro c e c' hsorted hstep
    exact step_sorted e hsorted hstep
  · intro c e c' hsorted hc hok hstep
    exact (step_represents_iff hsorted hc hstep).mpr hok
  · intro c e hsorted hc hbad
    cases e with
    | insertOrUpdate id pri =>
      exact ⟨_, rfl, fun h => hbad ((step_represents_iff hsorted hc rfl).mp h)⟩
    | updateIfExist id pri =>
      exact ⟨_, rfl, fun h => hbad ((step_represents_iff hsorted hc rfl).mp h)⟩
    | erase id => exact ⟨_, rfl, fun h => hbad ((step_represents_iff hsorted hc rfl).mp h)⟩
    | begin index => exact absurd trivial hbad
    | next index force => exact absurd trivial hbad
  · intro index
    exact List.Pairwise.nil
  · exact new_represents maxNextsPerStream

/-- A stream is inserted with order id 5 and erased, and then inserted with order id 0: it is not
found when it is erased, and stays in its level. -/
theorem ghost_entry : ∃ c,
    [.insertOrUpdate 4 ⟨3, false, 5⟩, .erase 4, .insertOrUpdate 4 ⟨3, false, 0⟩,
      .erase 4].foldlM step (new 1) = .ok c ∧
    c.latest 4 = none ∧ ⟨4, 0⟩ ∈ (c.queue.levels (priority2index ⟨3, false, 0⟩)).streams ∧
    c.queue.notFound = true ∧
    ¬ c.Represents := by
  refine ⟨_, rfl, rfl, ?_, rfl, ?_⟩
  · exact List.mem_singleton_self _
  · intro h
    cases h.found

end QueueRun

end MasqueQuic
