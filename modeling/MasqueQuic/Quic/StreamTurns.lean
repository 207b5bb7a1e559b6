/-
Packets after each other, and what the stream scheduler promises.

A call of `writeStreamsHelper` ends after at most twice as many calls of `writeSingleStream` as there
are streams, whatever the number of nexts for each stream is, exactly if the packet is not filled at
a place where the loop turns (`scheduled_iff`). The other promises hold in any case: the order of the
levels, and with one next for each stream the turns of the streams in an incremental level.
-/

import MasqueQuic.Quic.StreamLevels

namespace MasqueQuic

open RoundRobin

namespace StreamFrameScheduler

open SchedulingConn (writeSingleStream)

/-! ### Control streams -/

/-- `nextScheduled` is where the next packet begins. -/
structure ControlRun where
  nextScheduled : Option StreamId
  connWritableBytes : Nat
  space : FrameSpace
  offers : List (StreamId × Bool)

/-- `MiddleStartingIterationWrapper`: from the first stream that is not before `start` on, and
around. -/
def middleStarting (ids : List StreamId) (start : StreamId) : List StreamId :=
  ids.dropWhile (fun id => decide (id < start)) ++ ids.takeWhile (fun id => decide (id < start))

/-- Behind the last one stands the `first`. -/
def writeControlStreams (streams : StreamId → QueuedStream) (streamPerPacket : Bool)
    (first : Option StreamId) : List StreamId → Nat → FrameSpace → ControlRun
  | [], connWritableBytes, p => ⟨first, connWritableBytes, p, []⟩
  | id :: rest, connWritableBytes, p =>
      let (passed, connWritableBytes, p) :=
        writeSingleStream (streams id).nonDsr connWritableBytes p
      if !passed then ⟨some id, connWritableBytes, p, [(id, false)]⟩
      else if streamPerPacket then
        ⟨rest.head?.or first, connWritableBytes, p, [(id, true)]⟩
      else
        let run := writeControlStreams streams streamPerPacket first rest connWritableBytes p
        { run with offers := (id, true) :: run.offers }

/-- `writeStreamsHelper` over the control streams. -/
def writeControlStreamsHelper (streams : StreamId → QueuedStream) (streamPerPacket : Bool)
    (ids : List StreamId) (nextScheduledStream : StreamId) (connWritableBytes : Nat)
    (p : FrameSpace) : ControlRun :=
  let order := middleStarting ids nextScheduledStream
  writeControlStreams streams streamPerPacket order.head? order connWritableBytes p

theorem length_middleStarting (ids : List StreamId) (start : StreamId) :
    (middleStarting ids start).length = ids.length := by
  unfold middleStarting
  rw [List.length_append, Nat.add_comm, ← List.length_append, List.takeWhile_append_dropWhile]

/-- Each control stream is offered space at most once. -/
theorem writeControlStreams_prefix (streams : StreamId → QueuedStream) (streamPerPacket : Bool)
    (first : Option StreamId) (order : List StreamId) (connWritableBytes : Nat) (p : FrameSpace) :
    ((writeControlStreams streams streamPerPacket first order connWritableBytes p).offers.map
      Prod.fst) <+: order := by
  induction order generalizing connWritableBytes p with
  | nil => exact List.nil_prefix
  | cons id rest ih =>
    unfold writeControlStreams
    dsimp only
    generalize writeSingleStream (streams id).nonDsr connWritableBytes p = r
    obtain ⟨passed, c, p'⟩ := r
    have hone : [id] <+: id :: rest := ⟨rest, rfl⟩
    dsimp only
    split
    · exact hone
    split
    · exact hone
    · exact List.cons_prefix_cons.mpr ⟨rfl, ih c p'⟩

/-! ### Runs -/

/-- A packet, or a change of the queue. The DSR scheduler is `begin` and `next` there. -/
inductive SchedulerEvent where
  | packet (streams : StreamId → QueuedStream) (streamPerPacket : Bool) (connWritableBytes : Nat)
      (p : FrameSpace)
  | queue (event : QueueEvent)

/-- The turns in a level: the offers that have not been refused. -/
def turnsOf (items : List OrderedStream) (index : Fin kDefaultPriorityLevelsSize)
    (offers : List StreamOffer) : List (Moment OrderedStream) :=
  (offers.filter fun o => decide (o.index = index) && o.passed).map fun o => ⟨items, some o.stream⟩

/-- What a change of the queue is in a level. -/
def momentsOf (c c' : QueueRun) (index : Fin kDefaultPriorityLevelsSize) :
    QueueEvent → List (Moment OrderedStream)
  | .begin _ => []
  | .next other _ =>
      if other = index then
        [⟨(c.queue.levels index).streams, (c.queue.levels index).nextStreamIt⟩]
      else []
  | _ => [⟨(c'.queue.levels index).streams, none⟩]

/-- An event, with what has happened in each level. -/
def schedule (c : QueueRun) :
    SchedulerEvent →
      Option (QueueRun × (Fin kDefaultPriorityLevelsSize → List (Moment OrderedStream)))
  | .packet streams streamPerPacket connWritableBytes p =>
      (writeStreamsHelper streams streamPerPacket c.queue.levels connWritableBytes p).map fun run =>
        ({ c with queue := { c.queue with levels := run.levels } },
          fun index => turnsOf (c.queue.levels index).streams index run.offers)
  | .queue event =>
      match c.step event with
      | .error _ => none
      | .ok c' => some (c', fun index => momentsOf c c' index event)

def scheduleAll (c : QueueRun) :
    List SchedulerEvent →
      Option (QueueRun × (Fin kDefaultPriorityLevelsSize → List (Moment OrderedStream)))
  | [] => some (c, fun _ => [])
  | event :: events =>
      match schedule c event with
      | none => none
      | some (c', log) =>
          (scheduleAll c' events).map fun r => (r.1, fun index => log index ++ r.2 index)

/-! ### Turns in an incremental level -/

/-- Going round a level. -/
def rotation (level : Level) : Rotation OrderedStream := ⟨level.streams, level.nextStreamIt⟩

/-- The iterator moves on with each `next`. -/
structure Turning (level : Level) : Prop extends LevelMarked level where
  once : level.maxNextsPerStream ≤ 1

section

variable {streams : StreamId → QueuedStream} {streamPerPacket : Bool}
  {levels : Fin kDefaultPriorityLevelsSize → Level}
  {index other : Fin kDefaultPriorityLevelsSize} {indices : List (Fin kDefaultPriorityLevelsSize)}
  {connWritableBytes : Nat} {p : FrameSpace} {level : Level} {fuel : Nat} {run : LevelRun}
  {packet : HelperRun} {current : OrderedStream}

theorem Turning.begin (h : Turning level) :
    Turning (level.begin true) ∧
      Rotation.Follows (rotation level) [] (rotation (level.begin true)) := by
  obtain ⟨hmax, -⟩ := begin_settings level true
  refine ⟨⟨⟨?_, fun x hx => ?_⟩, hmax ▸ h.once⟩, ?_⟩
  · rw [Level.streams_begin]
    exact h.sorted
  · rw [Level.streams_begin]
    exact Level.next_begin h.marked hx
  · unfold rotation Level.begin
    rw [if_pos rfl]
    dsimp only
    cases level.nextStreamIt with
    | none => exact .begin h.sorted.lt (.refl _)
    | some x => exact .refl _

theorem Turning.next (h : Turning level) (hnext : level.nextStreamIt = some current)
    (force : Bool) :
    Turning (level.next true force current) ∧
      Rotation.Follows (rotation level) [⟨level.streams, some current⟩]
        (rotation (level.next true force current)) := by
  have hlevel : level.next true force current =
      { level with nextStreamIt := nextOf current level.streams, nextsSoFar := 0 } := by
    have hmoves : ¬ (force = false ∧ level.nextsSoFar + 1 < level.maxNextsPerStream) := by
      have honce := h.once
      rintro ⟨-, hstays⟩
      omega
    unfold Level.next
    dsimp only
    rw [if_pos rfl, if_neg hmoves, OrderedStreamSet.successor_eq]
    rfl
  have hmarked : ∀ x, (level.next true force current).nextStreamIt = some x → x ∈ level.streams :=
    fun x hx => Level.next_next h.marked hx
  rw [hlevel] at hmarked ⊢
  refine ⟨⟨⟨h.sorted, hmarked⟩, h.once⟩, ?_⟩
  unfold rotation
  rw [hnext]
  exact .turn h.sorted.lt (h.marked current hnext) (.refl _)

theorem Turning.insert (h : Turning level) (id : StreamId) (orderId : Nat) :
    Turning (level.insert id orderId) ∧
      Rotation.Follows (rotation level) [⟨(level.insert id orderId).streams, none⟩]
        (rotation (level.insert id orderId)) := by
  have hsubset : level.streams ⊆ (level.insert id orderId).streams :=
    fun x hx => OrderedStreamSet.mem_insert.mpr (.inr hx)
  exact ⟨⟨⟨h.sorted.insert _, fun x hx => hsubset (h.marked x hx)⟩, h.once⟩,
    .insert hsubset (.refl _)⟩

theorem Turning.eraseStream (h : Turning level) (stream : OrderedStream) :
    Turning (level.eraseStream stream) ∧
      Rotation.Follows (rotation level) [⟨(level.eraseStream stream).streams, none⟩]
        (rotation (level.eraseStream stream)) := by
  have hmax : (level.eraseStream stream).maxNextsPerStream = level.maxNextsPerStream := by
    unfold Level.eraseStream
    split
    · rfl
    · rfl
  refine ⟨⟨⟨Level.sorted_eraseStream h.sorted stream,
    fun x hx => Level.next_eraseStream h.marked hx⟩, hmax ▸ h.once⟩, ?_⟩
  have hrotation : rotation (level.eraseStream stream) = ⟨level.streams.erase stream,
      if level.nextStreamIt = some stream then following stream level.streams
        else level.nextStreamIt⟩ := by
    unfold rotation Level.eraseStream
    split
    · rw [OrderedStreamSet.successor_eq]
    · rfl
  rw [hrotation, Level.streams_eraseStream]
  exact .erase h.sorted.lt (.refl _)

@[simp] theorem turnsOf_nil (items : List OrderedStream) : turnsOf items index [] = [] := rfl

theorem turnsOf_append (items : List OrderedStream) (offers offers' : List StreamOffer) :
    turnsOf items index (offers ++ offers') =
      turnsOf items index offers ++ turnsOf items index offers' := by
  unfold turnsOf
  rw [List.filter_append, List.map_append]

theorem turnsOf_other {items : List OrderedStream} {offers : List StreamOffer}
    (h : ∀ o ∈ offers, o.index ≠ index) : turnsOf items index offers = [] := by
  unfold turnsOf
  have hnone : offers.filter (fun o => decide (o.index = index) && o.passed) = [] := by
    refine List.filter_eq_nil_iff.mpr fun o ho => ?_
    simp [h o ho]
  rw [hnone]
  rfl

/-- The turns of a call of the loop follow the rotation of the level. -/
theorem Turning.writeLevel (h : Turning level) (hincremental : QueueRun.incremental index = true)
    (hrun : writeLevel streams streamPerPacket index fuel level connWritableBytes p = some run) :
    Turning run.level ∧ run.level.streams = level.streams ∧
      Rotation.Follows (rotation level) (turnsOf level.streams index run.offers)
        (rotation run.level) := by
  induction fuel generalizing level connWritableBytes p run with
  | zero => cases hrun
  | succ fuel ih =>
    unfold StreamFrameScheduler.writeLevel at hrun
    split at hrun
    · cases hrun
    next current hnext =>
      dsimp only at hrun
      rw [hincremental] at hrun
      split at hrun
      · cases hrun
        exact ⟨h, rfl, .refl _⟩
      generalize writeSingleStream (streams current.streamId).nonDsr connWritableBytes p = r
        at hrun
      obtain ⟨passed, c, p'⟩ := r
      dsimp only at hrun
      cases passed with
      | false =>
        cases hrun
        refine ⟨h, rfl, ?_⟩
        have hnone : turnsOf level.streams index [⟨index, current, false⟩] = [] := by
          simp [turnsOf]
        dsimp only
        rw [hnone]
        exact .refl _
      | true =>
        rw [Bool.not_true, if_neg Bool.false_ne_true] at hrun
        generalize decide (0 < p'.remainingSpaceInPkt) = force at hrun
        obtain ⟨hturning, hfollows⟩ := h.next hnext force
        have hstreams := Level.streams_next level true force current
        have hone : turnsOf level.streams index [⟨index, current, true⟩] =
            [⟨level.streams, some current⟩] := by
          simp [turnsOf]
        rw [← hone] at hfollows
        split at hrun
        · cases hrun
          exact ⟨hturning, hstreams, hfollows⟩
        split at hrun
        · cases hrun
          exact ⟨hturning, hstreams, hfollows⟩
        · obtain ⟨run', hrun', rfl⟩ := Option.map_eq_some_iff.mp hrun
          obtain ⟨hturning', hstreams', hfollows'⟩ := @ih _ _ _ run' hturning hrun'
          rw [hstreams] at hstreams' hfollows'
          refine ⟨hturning', hstreams', ?_⟩
          have hall := hfollows.append hfollows'
          rwa [← turnsOf_append] at hall

/-- A level that is not gone through is left as it is. -/
theorem writeLevels_other (hother : other ∉ indices)
    (hpacket : writeLevels streams streamPerPacket indices levels connWritableBytes p =
      some packet) :
    packet.levels other = levels other ∧ ∀ o ∈ packet.offers, o.index ≠ other := by
  induction indices generalizing levels connWritableBytes p packet with
  | nil =>
    cases hpacket
    exact ⟨rfl, fun o ho => absurd ho List.not_mem_nil⟩
  | cons index rest ih =>
    have hne : other ≠ index := fun hsame => hother (hsame ▸ List.mem_cons_self)
    have hrest : other ∉ rest := fun hmem => hother (List.mem_cons_of_mem _ hmem)
    unfold writeLevels at hpacket
    split at hpacket
    · cases hpacket
      exact ⟨rfl, fun o ho => absurd ho List.not_mem_nil⟩
    split at hpacket
    · exact ih hrest hpacket
    split at hpacket
    · cases hpacket
    next run hrun =>
      have hindex : ∀ o ∈ run.offers, o.index ≠ other := by
        intro o ho hsame
        rw [writeLevel_index hrun o ho] at hsame
        exact hne hsame.symm
      dsimp only at hpacket
      split at hpacket
      · cases hpacket
        exact ⟨Function.update_of_ne hne _ _, hindex⟩
      · obtain ⟨r, hr, rfl⟩ := Option.map_eq_some_iff.mp hpacket
        obtain ⟨hlevel, hoffers⟩ := ih hrest hr
        rw [Function.update_of_ne hne] at hlevel
        refine ⟨hlevel, fun o ho => ?_⟩
        rcases List.mem_append.mp ho with ho | ho
        · exact hindex o ho
        · exact hoffers o ho

/-- So do the turns of a packet. -/
theorem Turning.writeLevels (h : Turning (levels index))
    (hincremental : QueueRun.incremental index = true) (hnodup : indices.Nodup)
    (hpacket : writeLevels streams streamPerPacket indices levels connWritableBytes p =
      some packet) :
    Turning (packet.levels index) ∧
      Rotation.Follows (rotation (levels index))
        (turnsOf (levels index).streams index packet.offers) (rotation (packet.levels index)) := by
  induction indices generalizing levels connWritableBytes p packet with
  | nil =>
    cases hpacket
    exact ⟨h, .refl _⟩
  | cons other rest ih =>
    obtain ⟨hother, hrest⟩ := List.nodup_cons.mp hnodup
    unfold StreamFrameScheduler.writeLevels at hpacket
    split at hpacket
    · cases hpacket
      exact ⟨h, .refl _⟩
    split at hpacket
    · exact ih h hrest hpacket
    split at hpacket
    · cases hpacket
    next run hrun =>
      dsimp only at hpacket
      by_cases hsame : other = index
      · -- The levels behind this one leave it as it is.
        subst hsame
        rw [hincremental] at hrun
        obtain ⟨hbegin, hstart⟩ := h.begin
        obtain ⟨hturning, -, hfollows⟩ := hbegin.writeLevel hincremental hrun
        rw [Level.streams_begin] at hfollows
        have hall := hstart.append hfollows
        rw [List.nil_append] at hall
        split at hpacket
        · cases hpacket
          dsimp only
          rw [Function.update_self]
          exact ⟨hturning, hall⟩
        · obtain ⟨r, hr, rfl⟩ := Option.map_eq_some_iff.mp hpacket
          obtain ⟨hlevel, hoffers⟩ := writeLevels_other hother hr
          rw [Function.update_self] at hlevel
          dsimp only
          rw [hlevel, turnsOf_append, turnsOf_other hoffers, List.append_nil]
          exact ⟨hturning, hall⟩
      · have hkept : Function.update levels other run.level index = levels index :=
          Function.update_of_ne (Ne.symm hsame) _ _
        have hnone : turnsOf (levels index).streams index run.offers = [] := by
          refine turnsOf_other fun o ho => ?_
          rw [writeLevel_index hrun o ho]
          exact hsame
        split at hpacket
        · cases hpacket
          dsimp only
          rw [hkept, hnone]
          exact ⟨h, .refl _⟩
        · obtain ⟨r, hr, rfl⟩ := Option.map_eq_some_iff.mp hpacket
          rw [← hkept] at h
          have hmore := ih h hrest hr
          rw [hkept] at hmore
          dsimp only
          rw [turnsOf_append, hnone, List.nil_append]
          exact hmore

/-! ### Turns in a run -/

/-- A change of the queue follows the rotation of a level. -/
def Changes (level level' : Level) : Prop :=
  Turning level' ∧
    Rotation.Follows (rotation level) [⟨level'.streams, none⟩] (rotation level')

theorem Turning.unchanged (h : Turning level) : Changes level level :=
  ⟨h, .insert (List.Subset.refl _) (.refl _)⟩

theorem Turning.eraseFromLevel {q : PriorityQueue} (h : Turning (q.levels index))
    (other : Fin kDefaultPriorityLevelsSize) (id : StreamId) :
    Changes (q.levels index) ((q.eraseFromLevel other id).levels index) ∧
      (other ≠ index → (q.eraseFromLevel other id).levels index = q.levels index) := by
  unfold PriorityQueue.eraseFromLevel
  dsimp only
  split
  · by_cases hsame : other = index
    · subst hsame
      dsimp only
      rw [Function.update_self]
      exact ⟨h.eraseStream _, fun hne => absurd rfl hne⟩
    · dsimp only
      rw [Function.update_of_ne (Ne.symm hsame)]
      exact ⟨h.unchanged, fun _ => rfl⟩
  · exact ⟨h.unchanged, fun _ => rfl⟩

theorem Turning.insertIntoLevel {q : PriorityQueue} (h : Turning (q.levels index)) (id : StreamId)
    (pri : Priority) :
    Changes (q.levels index) ((q.insertIntoLevel id pri).levels index) ∧
      (priority2index pri ≠ index → (q.insertIntoLevel id pri).levels index = q.levels index) := by
  by_cases hsame : priority2index pri = index
  · subst hsame
    rw [PriorityQueue.levels_insertIntoLevel]
    exact ⟨h.insert _ _, fun hne => absurd rfl hne⟩
  · rw [PriorityQueue.levels_insertIntoLevel_of_ne _ _ (Ne.symm hsame)]
    exact ⟨h.unchanged, fun _ => rfl⟩

theorem Turning.updateExistingStreamPriority {q : PriorityQueue} (h : Turning (q.levels index))
    (id : StreamId) (other : Fin kDefaultPriorityLevelsSize) (pri : Priority) :
    Changes (q.levels index) ((q.updateExistingStreamPriority id other pri).levels index) := by
  unfold PriorityQueue.updateExistingStreamPriority
  split
  · exact h.unchanged
  · next hne =>
      obtain ⟨herased, hkept⟩ := h.eraseFromLevel other id
      obtain ⟨hinserted, hkept'⟩ := herased.1.insertIntoLevel id pri
      -- The two levels are different, and each changes once.
      by_cases hsame : priority2index pri = index
      · rwa [hkept fun hother => hne (hother.trans hsame.symm)] at hinserted
      · rwa [hkept' hsame]

/-- One event follows the rotation of an incremental level. -/
theorem Turning.schedule {c c' : QueueRun} {event : SchedulerEvent}
    {log : Fin kDefaultPriorityLevelsSize → List (Moment OrderedStream)}
    (h : Turning (c.queue.levels index)) (hincremental : QueueRun.incremental index = true)
    (hstep : schedule c event = some (c', log)) :
    Turning (c'.queue.levels index) ∧
      Rotation.Follows (rotation (c.queue.levels index)) (log index)
        (rotation (c'.queue.levels index)) := by
  cases event with
  | packet streams streamPerPacket connWritableBytes p =>
    obtain ⟨packet, hpacket, hsame⟩ := Option.map_eq_some_iff.mp hstep
    cases hsame
    exact h.writeLevels hincremental (List.nodup_finRange _) hpacket
  | queue event =>
    unfold StreamFrameScheduler.schedule at hstep
    dsimp only at hstep
    split at hstep
    · cases hstep
    next c₁ hchange =>
      cases hstep
      cases event with
      | insertOrUpdate id pri =>
        cases hchange
        dsimp only [momentsOf, PriorityQueue.insertOrUpdate]
        split
        · exact h.updateExistingStreamPriority id _ pri
        · exact (h.insertIntoLevel id pri).1
      | updateIfExist id pri =>
        cases hchange
        dsimp only [momentsOf, PriorityQueue.updateIfExist]
        split
        · exact h.updateExistingStreamPriority id _ pri
        · exact h.unchanged
      | erase id =>
        cases hchange
        dsimp only [momentsOf, PriorityQueue.erase]
        split
        · exact (h.eraseFromLevel _ id).1
        · exact h.unchanged
      | begin other =>
        cases hchange
        dsimp only [momentsOf]
        by_cases hsame : index = other
        · subst hsame
          rw [PriorityQueue.levels_withLevel, hincremental]
          exact h.begin
        · rw [PriorityQueue.levels_withLevel_of_ne _ _ hsame]
          exact ⟨h, .refl _⟩
      | next other force =>
        dsimp only [QueueRun.step] at hchange
        split at hchange
        · cases hchange
        next current hnext =>
          cases hchange
          dsimp only [momentsOf]
          by_cases hsame : index = other
          · subst hsame
            rw [PriorityQueue.levels_withLevel, hincremental, if_pos rfl, hnext]
            exact h.next hnext force
          · rw [PriorityQueue.levels_withLevel_of_ne _ _ hsame, if_neg (Ne.symm hsame)]
            exact ⟨h, .refl _⟩

/-- And so does a run. -/
theorem Turning.scheduleAll {c c' : QueueRun} {events : List SchedulerEvent}
    {log : Fin kDefaultPriorityLevelsSize → List (Moment OrderedStream)}
    (h : Turning (c.queue.levels index)) (hincremental : QueueRun.incremental index = true)
    (hrun : scheduleAll c events = some (c', log)) :
    Rotation.Follows (rotation (c.queue.levels index)) (log index)
      (rotation (c'.queue.levels index)) := by
  induction events generalizing c log with
  | nil =>
    cases hrun
    exact .refl _
  | cons event events ih =>
    unfold StreamFrameScheduler.scheduleAll at hrun
    split at hrun
    · cases hrun
    next c₁ log₁ hstep =>
      obtain ⟨⟨c₂, log₂⟩, hrest, hsame⟩ := Option.map_eq_some_iff.mp hrun
      cases hsame
      obtain ⟨hturning, hfollows⟩ := h.schedule hincremental hstep
      exact hfollows.append (ih hturning hrest)

end

/-! ### The scheduler -/

/-- The write queue, with fewer streams than a number of nexts can count. -/
structure WriteQueue where
  queue : PriorityQueue
  marked : ∀ index, LevelMarked (queue.levels index)
  few : queuedIn queue.levels (List.finRange kDefaultPriorityLevelsSize) < 2 ^ 62

namespace WriteQueue

def queued (q : WriteQueue) : Nat :=
  queuedIn q.queue.levels (List.finRange kDefaultPriorityLevelsSize)

/-- The levels, where each stream has so many nexts and some of them are used up. -/
def levels (q : WriteQueue) (maxNextsPerStream : Nat)
    (nextsSoFar : Fin kDefaultPriorityLevelsSize → Nat) (index : Fin kDefaultPriorityLevelsSize) :
    Level :=
  withNexts (q.queue.levels index) maxNextsPerStream (nextsSoFar index)

/-- The queue with one next for each stream. -/
def steady (q : WriteQueue) (latest : StreamId → Option Priority) : QueueRun :=
  ⟨{ q.queue with levels := q.levels 1 fun _ => 0 }, latest⟩

end WriteQueue

/-- What the scheduler promises. `fair` is about all packets and changes of the queue from here
on. -/
structure Scheduled (q : WriteQueue) (streams : StreamId → QueuedStream) (streamPerPacket : Bool)
    (connWritableBytes : Nat) (p : FrameSpace) : Prop where
  short : ∀ maxNextsPerStream nextsSoFar, 1 ≤ maxNextsPerStream → maxNextsPerStream < 2 ^ 64 →
    (∀ index, nextsSoFar index < maxNextsPerStream) →
      ∃ packet, writeStreamsHelper streams streamPerPacket (q.levels maxNextsPerStream nextsSoFar)
        connWritableBytes p = some packet ∧ packet.offers.length ≤ 2 * q.queued
  control : ∀ ids nextScheduledStream, (writeControlStreamsHelper streams streamPerPacket ids
    nextScheduledStream connWritableBytes p).offers.length ≤ ids.length
  urgent : ∀ maxNextsPerStream nextsSoFar packet,
    writeStreamsHelper streams streamPerPacket (q.levels maxNextsPerStream nextsSoFar)
      connWritableBytes p = some packet →
        UrgentFirst q.queue.levels (List.finRange kDefaultPriorityLevelsSize) packet.offers
  fair : ∀ latest events c log, scheduleAll (q.steady latest) events = some (c, log) →
    ∀ index, QueueRun.incremental index = true → Fair (log index)

section

variable {streams : StreamId → QueuedStream} {streamPerPacket : Bool} {connWritableBytes : Nat}
  {p : FrameSpace} {q : WriteQueue}

theorem WriteQueue.spins_levels (maxNextsPerStream : Nat)
    (nextsSoFar : Fin kDefaultPriorityLevelsSize → Nat)
    (indices : List (Fin kDefaultPriorityLevelsSize)) :
    Spins streams streamPerPacket (q.levels maxNextsPerStream nextsSoFar) indices connWritableBytes
        p ↔
      Spins streams streamPerPacket q.queue.levels indices connWritableBytes p :=
  spins_congr fun _ _ => rfl

theorem writeControlStreamsHelper_length (ids : List StreamId) (nextScheduledStream : StreamId) :
    (writeControlStreamsHelper streams streamPerPacket ids nextScheduledStream connWritableBytes
      p).offers.length ≤ ids.length := by
  have hprefix := writeControlStreams_prefix streams streamPerPacket
    (middleStarting ids nextScheduledStream).head? (middleStarting ids nextScheduledStream)
    connWritableBytes p
  have hlength := hprefix.length_le
  rwa [List.length_map, length_middleStarting] at hlength

theorem WriteQueue.urgent {maxNextsPerStream : Nat}
    {nextsSoFar : Fin kDefaultPriorityLevelsSize → Nat} {packet : HelperRun}
    (hpacket : writeStreamsHelper streams streamPerPacket (q.levels maxNextsPerStream nextsSoFar)
      connWritableBytes p = some packet) :
    UrgentFirst q.queue.levels (List.finRange kDefaultPriorityLevelsSize) packet.offers :=
  (writeLevels_urgent (fun index _ => (q.marked index).withNexts _ _)
    (List.pairwise_lt_finRange _) hpacket).2

theorem WriteQueue.fair {latest : StreamId → Option Priority} {events : List SchedulerEvent}
    {c : QueueRun} {log : Fin kDefaultPriorityLevelsSize → List (Moment OrderedStream)}
    (hrun : scheduleAll (q.steady latest) events = some (c, log))
    {index : Fin kDefaultPriorityLevelsSize} (hincremental : QueueRun.incremental index = true) :
    Fair (log index) := by
  have hturning : Turning ((q.steady latest).queue.levels index) :=
    ⟨(q.marked index).withNexts 1 0, Nat.le_refl 1⟩
  exact (hturning.scheduleAll hincremental hrun).fair

end

/-- The scheduler does what it promises exactly if the packet is not filled at a place of an
incremental level where the loop turns without writing. -/
theorem scheduled_iff (q : WriteQueue) (streams : StreamId → QueuedStream)
    (streamPerPacket : Bool) (connWritableBytes : Nat) (p : FrameSpace) :
    Scheduled q streams streamPerPacket connWritableBytes p ↔
      ¬ Spins streams streamPerPacket q.queue.levels (List.finRange kDefaultPriorityLevelsSize)
        connWritableBytes p := by
  have hmarked : ∀ maxNextsPerStream nextsSoFar, ∀ index ∈
      List.finRange kDefaultPriorityLevelsSize,
        LevelMarked (q.levels maxNextsPerStream nextsSoFar index) :=
    fun _ _ index _ => (q.marked index).withNexts _ _
  constructor
  · intro h hspins
    -- More nexts than twice the number of streams, and all but one used up.
    have hfew : q.queued < 2 ^ 62 := q.few
    have hmax : 2 * q.queued + 2 < 2 ^ 64 := by omega
    obtain ⟨packet, hpacket, hlength⟩ := h.short (2 * q.queued + 2) (fun _ => 2 * q.queued + 1)
      (by omega) hmax fun _ => Nat.lt_succ_self _
    rw [← WriteQueue.spins_levels (2 * q.queued + 2) fun _ => 2 * q.queued + 1] at hspins
    have hturns := le_writeLevels_of_spins (hmarked _ _) (List.nodup_finRange _)
      (Nat.le_add_left 2 _) (fun _ _ => ⟨rfl, rfl⟩) hspins hpacket
    omega
  · intro hspins
    refine ⟨?_, writeControlStreamsHelper_length, fun _ _ _ => WriteQueue.urgent,
      fun _ _ _ _ hrun _ => WriteQueue.fair hrun⟩
    intro maxNextsPerStream nextsSoFar hmax _ _
    rw [← WriteQueue.spins_levels maxNextsPerStream nextsSoFar] at hspins
    exact writeLevels_le (hmarked _ _) (List.nodup_finRange _) (fun _ _ => hmax) hspins

/-- An incremental level with two streams. -/
def twoStreams (index : Fin kDefaultPriorityLevelsSize) : Level where
  streams := if index = priority2index ⟨3, true, 0⟩ then [⟨0, 0⟩, ⟨4, 0⟩] else []
  streamToOrderId _ := none
  nextStreamIt := none
  startStreamIt := none
  nextsSoFar := 0
  maxNextsPerStream := 1

theorem twoStreams_marked (index : Fin kDefaultPriorityLevelsSize) :
    LevelMarked (twoStreams index) := by
  refine ⟨?_, fun x hx => ?_⟩
  · dsimp only [twoStreams]
    split
    · unfold OrderedStreamSet.Sorted
      decide
    · exact List.Pairwise.nil
  · cases hx

theorem twoStreams_few :
    queuedIn twoStreams (List.finRange kDefaultPriorityLevelsSize) < 2 ^ 62 := by
  decide +kernel

/-- Five bytes for the first stream, and 100 for the second. -/
def twoWriters (id : StreamId) : QueuedStream where
  id := id
  groupId := none
  lossBuffer := []
  writeBuffer := if id = 0 then 5 else 100
  currentWriteOffset := 0
  finalWriteOffset := none
  peerAdvertisedMaxOffset := 1000
  writeBufMetaOffset := 0
  hasSchedulableDsr := false

theorem writeLevels_isSome_two : ∃ packet,
    writeLevels twoWriters false (List.finRange kDefaultPriorityLevelsSize)
      (fun index => withNexts (twoStreams index) 10 0) 20 ⟨⟨25, 0⟩, .keyPhaseZero, []⟩ = some packet :=
  writeLevels_isSome (fun index _ => (twoStreams_marked index).withNexts 10 0)
    (List.nodup_finRange _)

/-- The first stream leaves the second 15 bytes of credit, which fill the packet. -/
theorem credit_spins : ¬ Scheduled ⟨⟨twoStreams, fun _ => none, false⟩, twoStreams_marked,
    twoStreams_few⟩ twoWriters false 20 ⟨⟨25, 0⟩, .keyPhaseZero, []⟩ := by
  intro h
  obtain ⟨packet, hpacket, hlength⟩ := h.short 10 (fun _ => 0) (by decide) (by decide)
    fun _ => by decide
  have hcalls : (writeStreamsHelper twoWriters false
      (fun index => withNexts (twoStreams index) 10 0) 20 ⟨⟨25, 0⟩, .keyPhaseZero, []⟩).map
        (fun packet => packet.offers.length) = some 11 := by
    decide +kernel
  have hsame := congrArg (Option.map fun packet : HelperRun => packet.offers.length) hpacket
  have heleven : packet.offers.length = 11 := by
    refine Option.some.inj (hsame.symm.trans ?_)
    exact hcalls
  have htwo : queuedIn twoStreams (List.finRange kDefaultPriorityLevelsSize) = 2 := by
    decide +kernel
  have hlimit : packet.offers.length ≤ 2 * 2 := by
    rw [← htwo]
    exact hlength
  omega

end StreamFrameScheduler

end MasqueQuic
