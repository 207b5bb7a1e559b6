/-
The stream scheduler over all levels of the queue.

A call of `writeStreamsHelper` ends (`writeLevels_isSome`), after at most twice as many calls of
`writeSingleStream` as there are streams where the loop turns nowhere (`writeLevels_le`), and with
no fewer than the count of a level where it does (`le_writeLevels_of_spins`). The more urgent levels
come first in any case (`writeLevels_urgent`).
-/

import MasqueQuic.Quic.StreamScheduling

namespace MasqueQuic

open RoundRobin

namespace StreamFrameScheduler

/-! ### The whole queue -/

/-- The settings of the iterator of a level. -/
def withNexts (level : Level) (maxNextsPerStream nextsSoFar : Nat) : Level :=
  { level with maxNextsPerStream, nextsSoFar }

/-- The streams in some levels. -/
def queuedIn (levels : Fin kDefaultPriorityLevelsSize → Level)
    (indices : List (Fin kDefaultPriorityLevelsSize)) : Nat :=
  (indices.map fun index => (levels index).streams.length).sum

/-- A stream is offered space only after each level before its own has been gone through, or one of
the streams there has been refused. -/
def UrgentFirst (levels : Fin kDefaultPriorityLevelsSize → Level)
    (indices : List (Fin kDefaultPriorityLevelsSize)) (offers : List StreamOffer) : Prop :=
  ∀ before o after, offers = before ++ o :: after → ∀ index ∈ indices, index < o.index →
    (∀ x ∈ (levels index).streams, ∃ o' ∈ before, o'.index = index ∧ o'.stream = x) ∨
      ∃ o' ∈ before, o'.index = index ∧ o'.passed = false

section

variable {streams : StreamId → QueuedStream} {streamPerPacket : Bool}
  {levels levels₀ : Fin kDefaultPriorityLevelsSize → Level}
  {index : Fin kDefaultPriorityLevelsSize} {indices : List (Fin kDefaultPriorityLevelsSize)}
  {connWritableBytes : Nat} {p : FrameSpace} {level : Level}
  {maxNextsPerStream : Nat} {nextsSoFar : Fin kDefaultPriorityLevelsSize → Nat}
  {fuel : Nat} {run : LevelRun} {packet : HelperRun}

theorem length_order (level : Level) (incremental : Bool) :
    (level.order incremental).length = level.streams.length :=
  (ring_order level incremental).length_eq

theorem order_ne_nil (hne : level.streams ≠ []) (incremental : Bool) :
    level.order incremental ≠ [] := by
  intro hnil
  have hlength := length_order level incremental
  rw [hnil] at hlength
  exact hne (List.length_eq_zero_iff.mp hlength.symm)

variable (streams streamPerPacket levels indices connWritableBytes) in
theorem writeLevels_full (hfull : p.remainingSpaceInPkt = 0) :
    ∃ packet, writeLevels streams streamPerPacket indices levels connWritableBytes p = some packet ∧
      packet.offers = [] := by
  cases indices with
  | nil => exact ⟨_, rfl, rfl⟩
  | cons index rest =>
    unfold writeLevels
    rw [if_pos hfull]
    exact ⟨_, rfl, rfl⟩

theorem writeLevels_empty (hspace : p.remainingSpaceInPkt ≠ 0)
    (hempty : (levels index).streams = []) :
    writeLevels streams streamPerPacket (index :: indices) levels connWritableBytes p =
      writeLevels streams streamPerPacket indices levels connWritableBytes p := by
  conv => lhs; unfold writeLevels
  rw [if_neg hspace, if_pos (List.isEmpty_iff.mpr hempty)]

/-- A level with streams is gone through, and then the levels behind it. -/
theorem writeLevels_cons (hmarked : LevelMarked (levels index)) (hspace : p.remainingSpaceInPkt ≠ 0)
    (hne : (levels index).streams ≠ [])
    (hrun : writeLevel streams streamPerPacket index (roundLimit (levels index))
      ((levels index).begin (QueueRun.incremental index)) connWritableBytes p = some run) :
    Outcome ((levels index).order (QueueRun.incremental index)) index run
        (pass streams streamPerPacket ((levels index).order (QueueRun.incremental index))
          connWritableBytes p) ∧
      writeLevels streams streamPerPacket (index :: indices) levels connWritableBytes p =
        if run.ending = .returned then
          some ⟨Function.update levels index run.level, run.connWritableBytes, run.space,
            run.offers⟩
        else
          (writeLevels streams streamPerPacket indices (Function.update levels index run.level)
            run.connWritableBytes run.space).map
              fun r => { r with offers := run.offers ++ r.offers } := by
  refine ⟨outcome_of_run (round_begin hmarked) (order_ne_nil hne _) ?_ hrun, ?_⟩
  · rw [length_order]
    exact length_le_roundLimit _
  · conv => lhs; unfold writeLevels
    rw [if_neg hspace, if_neg fun hempty => hne (List.isEmpty_iff.mp hempty), hrun]

variable (streams streamPerPacket connWritableBytes p) in
theorem writeLevel_begin_isSome (hmarked : LevelMarked (levels index))
    (hne : (levels index).streams ≠ []) :
    ∃ run, writeLevel streams streamPerPacket index (roundLimit (levels index))
      ((levels index).begin (QueueRun.incremental index)) connWritableBytes p = some run := by
  refine writeLevel_isSome (round_begin hmarked) (order_ne_nil hne _) ?_
  have hsettings : ((levels index).begin (QueueRun.incremental index)).maxNextsPerStream =
      (levels index).maxNextsPerStream := by
    unfold Level.begin
    split
    · rfl
    · rfl
  rw [length_order, hsettings]
  unfold roundLimit
  have hpos := List.length_pos_of_ne_nil hne
  obtain ⟨n, hn⟩ : ∃ n, (levels index).streams.length = n + 1 :=
    ⟨(levels index).streams.length - 1, by omega⟩
  rw [hn, Nat.add_sub_cancel, Nat.add_mul, Nat.add_mul]
  omega

theorem LevelMarked.withNexts (h : LevelMarked level) (maxNexts nexts : Nat) :
    LevelMarked (withNexts level maxNexts nexts) := ⟨h.sorted, h.marked⟩

theorem queuedIn_cons (levels : Fin kDefaultPriorityLevelsSize → Level)
    (index : Fin kDefaultPriorityLevelsSize) (indices : List (Fin kDefaultPriorityLevelsSize)) :
    queuedIn levels (index :: indices) = (levels index).streams.length + queuedIn levels indices :=
  rfl

/-- A level that is not gone through does not matter. -/
theorem forall_update {P : Level → Prop} (hindex : index ∉ indices)
    (h : ∀ other ∈ indices, P (levels other)) :
    ∀ other ∈ indices, P (Function.update levels index level other) := by
  intro other hother
  have hne : other ≠ index := by
    rintro rfl
    exact hindex hother
  rw [Function.update_of_ne hne]
  exact h other hother

variable (level) in
theorem queuedIn_update (hindex : index ∉ indices) :
    queuedIn (Function.update levels index level) indices = queuedIn levels indices := by
  unfold queuedIn
  congr 1
  refine List.map_congr_left fun other hother => ?_
  rw [Function.update_of_ne]
  rintro rfl
  exact hindex hother

/-- Only the order of the streams in a level matters. -/
theorem spins_congr {levels' : Fin kDefaultPriorityLevelsSize → Level}
    (h : ∀ index ∈ indices, (levels index).order (QueueRun.incremental index) =
      (levels' index).order (QueueRun.incremental index)) :
    Spins streams streamPerPacket levels indices connWritableBytes p ↔
      Spins streams streamPerPacket levels' indices connWritableBytes p := by
  induction indices generalizing connWritableBytes p with
  | nil => exact Iff.rfl
  | cons index rest ih =>
    have hrest : ∀ other ∈ rest, (levels other).order (QueueRun.incremental other) =
        (levels' other).order (QueueRun.incremental other) :=
      fun other hother => h other (List.mem_cons_of_mem _ hother)
    unfold Spins
    by_cases hspace : p.remainingSpaceInPkt = 0
    · rw [if_pos hspace, if_pos hspace]
    rw [if_neg hspace, if_neg hspace]
    dsimp only
    rw [h index List.mem_cons_self]
    refine or_congr Iff.rfl ?_
    generalize pass streams streamPerPacket _ connWritableBytes p = passEnd
    cases passEnd with
    | through c p' => exact ih hrest
    | refused c p' => exact ih hrest
    | returned => exact Iff.rfl
    | filled current behind c p' => exact Iff.rfl

variable (level) in
theorem spins_update (hindex : index ∉ indices) :
    Spins streams streamPerPacket (Function.update levels index level) indices connWritableBytes p ↔
      Spins streams streamPerPacket levels indices connWritableBytes p := by
  refine spins_congr fun other hother => ?_
  rw [Function.update_of_ne]
  rintro rfl
  exact hindex hother

/-- Where a level has been left with space, the round has been gone through or a stream refused. -/
theorem Outcome.left {order : List OrderedStream} {passEnd : PassEnd}
    (h : Outcome order index run passEnd) (hending : run.ending ≠ .returned)
    (hspace : run.space.remainingSpaceInPkt ≠ 0) :
    passEnd = .through run.connWritableBytes run.space ∨
      passEnd = .refused run.connWritableBytes run.space := by
  cases passEnd with
  | through c p' =>
    obtain ⟨-, hc, hp, -⟩ := h
    exact .inl (by rw [hc, hp])
  | refused c p' =>
    obtain ⟨-, hc, hp, -⟩ := h
    exact .inr (by rw [hc, hp])
  | returned => exact absurd h hending
  | filled current rest c p' => exact absurd h hspace

/-- Then each stream of the level has been offered space, or one refused. -/
theorem Outcome.offered
    (h : Outcome ((levels index).order (QueueRun.incremental index)) index run
      (pass streams streamPerPacket ((levels index).order (QueueRun.incremental index))
        connWritableBytes p))
    (hending : run.ending ≠ .returned) (hspace : run.space.remainingSpaceInPkt ≠ 0) :
    (∀ x ∈ (levels index).streams, ∃ o ∈ run.offers, o.stream = x) ∨
      ∃ o ∈ run.offers, o.passed = false := by
  rcases h.left hending hspace with hend | hend
  · rw [hend] at h
    obtain ⟨-, -, -, hoffers⟩ := h
    refine .inl fun x hx => ?_
    rw [hoffers]
    exact ⟨_, List.mem_map_of_mem ((ring_order _ _).mem_iff.mpr hx), rfl⟩
  · rw [hend] at h
    obtain ⟨-, -, -, hrefused⟩ := h
    exact .inr hrefused

/-- Behind a level with space left, the levels behind it decide. -/
theorem Outcome.spins_iff (h : Outcome ((levels index).order (QueueRun.incremental index)) index run
      (pass streams streamPerPacket ((levels index).order (QueueRun.incremental index))
        connWritableBytes p))
    (hending : run.ending ≠ .returned) (hspace : run.space.remainingSpaceInPkt ≠ 0)
    (hspace' : p.remainingSpaceInPkt ≠ 0) :
    Spins streams streamPerPacket levels (index :: indices) connWritableBytes p ↔
      Spins streams streamPerPacket levels indices run.connWritableBytes run.space := by
  conv => lhs; unfold Spins
  rw [if_neg hspace']
  dsimp only
  rcases h.left hending hspace with hend | hend
  · rw [hend]
    exact ⟨fun hor => hor.elim (fun hand => hand.2.elim) id, .inr⟩
  · rw [hend]
    exact ⟨fun hor => hor.elim (fun hand => hand.2.elim) id, .inr⟩

theorem spins_space
    (hspins : Spins streams streamPerPacket levels indices connWritableBytes p) :
    p.remainingSpaceInPkt ≠ 0 := by
  intro hfull
  cases indices with
  | nil => exact hspins
  | cons index rest =>
    unfold Spins at hspins
    rwa [if_pos hfull] at hspins

/-- The loop turns in a level behind, and this one is left with space. -/
theorem Outcome.behind (h : Outcome ((levels index).order (QueueRun.incremental index)) index run
      (pass streams streamPerPacket ((levels index).order (QueueRun.incremental index))
        connWritableBytes p))
    (hspins : Spins streams streamPerPacket levels (index :: indices) connWritableBytes p)
    (hhere : ¬ (QueueRun.incremental index = true ∧
      SpinsAt streams ((levels index).order (QueueRun.incremental index))
        (pass streams streamPerPacket ((levels index).order (QueueRun.incremental index))
          connWritableBytes p))) :
    run.ending ≠ .returned ∧ run.space.remainingSpaceInPkt ≠ 0 := by
  have hspace := spins_space hspins
  unfold Spins at hspins
  rw [if_neg hspace] at hspins
  dsimp only at hspins
  have hrest := hspins.resolve_left hhere
  generalize pass streams streamPerPacket _ connWritableBytes p = passEnd at h hrest
  cases passEnd with
  | through c p' =>
    obtain ⟨hending, -, rfl, -⟩ := h
    refine ⟨?_, spins_space hrest⟩
    rw [hending]
    intro hsame
    cases hsame
  | refused c p' =>
    obtain ⟨hending, -, rfl, -⟩ := h
    refine ⟨?_, spins_space hrest⟩
    rw [hending]
    intro hsame
    cases hsame
  | returned => exact hrest.elim
  | filled current rest c p' => exact hrest.elim

theorem spins_empty (hspace : p.remainingSpaceInPkt ≠ 0) (hempty : (levels index).streams = []) :
    Spins streams streamPerPacket levels (index :: indices) connWritableBytes p ↔
      Spins streams streamPerPacket levels indices connWritableBytes p := by
  have horder : (levels index).order (QueueRun.incremental index) = [] := by
    refine List.length_eq_zero_iff.mp ?_
    rw [length_order, hempty]
    rfl
  conv => lhs; unfold Spins
  dsimp only
  rw [if_neg hspace, horder]
  exact ⟨fun hor => hor.elim (fun hand => hand.2.elim) id, .inr⟩

theorem begin_settings (level : Level) (incremental : Bool) :
    (level.begin incremental).maxNextsPerStream = level.maxNextsPerStream ∧
      (level.begin incremental).nextsSoFar = level.nextsSoFar := by
  unfold Level.begin
  split
  · exact ⟨rfl, rfl⟩
  · exact ⟨rfl, rfl⟩

/-- Without a place where the loop turns, a call of `writeStreamsHelper` is short. -/
theorem writeLevels_le (hmarked : ∀ index ∈ indices, LevelMarked (levels index))
    (hnodup : indices.Nodup) (hmax : ∀ index ∈ indices, 1 ≤ (levels index).maxNextsPerStream)
    (hspins : ¬ Spins streams streamPerPacket levels indices connWritableBytes p) :
    ∃ packet, writeLevels streams streamPerPacket indices levels connWritableBytes p = some packet ∧
      packet.offers.length ≤ 2 * queuedIn levels indices := by
  induction indices generalizing levels connWritableBytes p with
  | nil => exact ⟨_, rfl, Nat.zero_le _⟩
  | cons index rest ih =>
    obtain ⟨hindex, hrest⟩ := List.nodup_cons.mp hnodup
    have hmarked' : ∀ other ∈ rest, LevelMarked (levels other) :=
      fun other hother => hmarked other (List.mem_cons_of_mem _ hother)
    have hmax' : ∀ other ∈ rest, 1 ≤ (levels other).maxNextsPerStream :=
      fun other hother => hmax other (List.mem_cons_of_mem _ hother)
    rw [queuedIn_cons]
    by_cases hspace : p.remainingSpaceInPkt = 0
    · obtain ⟨packet, hpacket, hnone⟩ := writeLevels_full streams
        streamPerPacket levels (index :: rest) connWritableBytes hspace
      exact ⟨packet, hpacket, by rw [hnone]; exact Nat.zero_le _⟩
    by_cases hempty : (levels index).streams = []
    · rw [spins_empty hspace hempty] at hspins
      rw [writeLevels_empty hspace hempty]
      obtain ⟨packet, hpacket, hlength⟩ := ih hmarked' hrest hmax' hspins
      exact ⟨packet, hpacket, by omega⟩
    · have hlevel := hmarked index List.mem_cons_self
      have hone := hmax index List.mem_cons_self
      have hlength := length_order (levels index) (QueueRun.incremental index)
      have hfuel : 2 * ((levels index).order (QueueRun.incremental index)).length ≤
          roundLimit (levels index) := by
        rw [hlength, Nat.mul_comm]
        exact Nat.mul_le_mul (Nat.le_succ _) (Nat.succ_le_succ hone)
      have hhere : ¬ (QueueRun.incremental index = true ∧
          SpinsAt streams ((levels index).order (QueueRun.incremental index))
            (pass streams streamPerPacket ((levels index).order (QueueRun.incremental index))
              connWritableBytes p)) := by
        intro hat
        refine hspins ?_
        unfold Spins
        rw [if_neg hspace]
        exact .inl hat
      obtain ⟨run, hrun, hshort⟩ := writeLevel_le streamPerPacket
        (round_begin hlevel) (order_ne_nil hempty _) hfuel hhere
      rw [hlength] at hshort
      obtain ⟨houtcome, hcons⟩ := writeLevels_cons hlevel hspace hempty hrun
      rw [hcons]
      by_cases hending : run.ending = .returned
      · rw [if_pos hending]
        exact ⟨_, rfl, by dsimp only; omega⟩
      rw [if_neg hending]
      suffices hmore : ∃ packet, writeLevels streams streamPerPacket rest
          (Function.update levels index run.level) run.connWritableBytes run.space = some packet ∧
            packet.offers.length ≤ 2 * queuedIn levels rest by
        obtain ⟨packet, hpacket, hmore⟩ := hmore
        rw [hpacket]
        refine ⟨_, rfl, ?_⟩
        dsimp only
        rw [List.length_append]
        omega
      by_cases hfull : run.space.remainingSpaceInPkt = 0
      · obtain ⟨packet, hpacket, hnone⟩ := writeLevels_full streams
          streamPerPacket (Function.update levels index run.level) rest run.connWritableBytes
          hfull
        exact ⟨packet, hpacket, by rw [hnone]; exact Nat.zero_le _⟩
      · rw [houtcome.spins_iff hending hfull hspace, ← spins_update run.level hindex]
          at hspins
        rw [← queuedIn_update run.level hindex]
        exact ih (forall_update hindex hmarked') hrest
          (forall_update (P := fun l => 1 ≤ l.maxNextsPerStream) hindex hmax') hspins

/-- A call of `writeStreamsHelper` ends. -/
theorem writeLevels_isSome (hmarked : ∀ index ∈ indices, LevelMarked (levels index))
    (hnodup : indices.Nodup) :
    ∃ packet,
      writeLevels streams streamPerPacket indices levels connWritableBytes p = some packet := by
  induction indices generalizing levels connWritableBytes p with
  | nil => exact ⟨_, rfl⟩
  | cons index rest ih =>
    obtain ⟨hindex, hrest⟩ := List.nodup_cons.mp hnodup
    have hmarked' : ∀ other ∈ rest, LevelMarked (levels other) :=
      fun other hother => hmarked other (List.mem_cons_of_mem _ hother)
    by_cases hspace : p.remainingSpaceInPkt = 0
    · obtain ⟨packet, hpacket, -⟩ := writeLevels_full streams
        streamPerPacket levels (index :: rest) connWritableBytes hspace
      exact ⟨packet, hpacket⟩
    by_cases hempty : (levels index).streams = []
    · rw [writeLevels_empty hspace hempty]
      exact ih hmarked' hrest
    · have hlevel := hmarked index List.mem_cons_self
      obtain ⟨run, hrun⟩ := writeLevel_begin_isSome streams
        streamPerPacket connWritableBytes p hlevel hempty
      obtain ⟨-, hcons⟩ := writeLevels_cons hlevel hspace hempty hrun
      rw [hcons]
      split
      · exact ⟨_, rfl⟩
      · obtain ⟨packet, hpacket⟩ : ∃ packet, writeLevels streams streamPerPacket rest
            (Function.update levels index run.level) run.connWritableBytes run.space =
              some packet :=
          ih (forall_update hindex hmarked') hrest
        rw [hpacket]
        exact ⟨_, rfl⟩

/-- At a place where the loop turns, it turns until the count of the level is full. -/
theorem le_writeLevels_of_spins (hmarked : ∀ index ∈ indices, LevelMarked (levels index))
    (hnodup : indices.Nodup) (hmax : 2 ≤ maxNextsPerStream)
    (hcount : ∀ index ∈ indices, (levels index).maxNextsPerStream = maxNextsPerStream ∧
      (levels index).nextsSoFar + 1 = maxNextsPerStream)
    (hspins : Spins streams streamPerPacket levels indices connWritableBytes p)
    (hpacket : writeLevels streams streamPerPacket indices levels connWritableBytes p =
      some packet) : maxNextsPerStream ≤ packet.offers.length := by
  induction indices generalizing levels connWritableBytes p packet with
  | nil => exact hspins.elim
  | cons index rest ih =>
    obtain ⟨hindex, hrest⟩ := List.nodup_cons.mp hnodup
    have hmarked' : ∀ other ∈ rest, LevelMarked (levels other) :=
      fun other hother => hmarked other (List.mem_cons_of_mem _ hother)
    have hcount' : ∀ other ∈ rest, (levels other).maxNextsPerStream = maxNextsPerStream ∧
        (levels other).nextsSoFar + 1 = maxNextsPerStream :=
      fun other hother => hcount other (List.mem_cons_of_mem _ hother)
    have hspace := spins_space hspins
    by_cases hempty : (levels index).streams = []
    · rw [spins_empty hspace hempty] at hspins
      rw [writeLevels_empty hspace hempty] at hpacket
      exact ih hmarked' hrest hcount' hspins hpacket
    · have hlevel := hmarked index List.mem_cons_self
      obtain ⟨hhereMax, hhereCount⟩ := hcount index List.mem_cons_self
      obtain ⟨run, hrun⟩ := writeLevel_begin_isSome streams
        streamPerPacket connWritableBytes p hlevel hempty
      obtain ⟨houtcome, hcons⟩ := writeLevels_cons hlevel hspace hempty hrun
      rw [hcons] at hpacket
      have hoffers : run.offers.length ≤ packet.offers.length := by
        split at hpacket
        · cases hpacket
          exact Nat.le_refl _
        · obtain ⟨r, -, rfl⟩ := Option.map_eq_some_iff.mp hpacket
          dsimp only
          rw [List.length_append]
          exact Nat.le_add_right _ _
      by_cases hhere : QueueRun.incremental index = true ∧
          SpinsAt streams ((levels index).order (QueueRun.incremental index))
            (pass streams streamPerPacket ((levels index).order (QueueRun.incremental index))
              connWritableBytes p)
      · -- It turns in this level.
        obtain ⟨hincremental, hat⟩ := hhere
        obtain ⟨hbeginMax, hbeginCount⟩ :=
          begin_settings (levels index) (QueueRun.incremental index)
        have hfuel : ((levels index).order (QueueRun.incremental index)).length ≤
            roundLimit (levels index) := by
          rw [length_order]
          exact length_le_roundLimit _
        have hturns := le_writeLevel_of_spins (round_begin hlevel) (order_ne_nil hempty _) hfuel
          hincremental hat (by rw [hbeginMax, hhereMax]; exact hmax)
          (by rw [hbeginMax, hbeginCount, hhereMax]; exact hhereCount) hrun
        rw [hbeginMax, hhereMax] at hturns
        exact hturns.trans hoffers
      · -- It turns in a level behind, and this one has been left with space.
        obtain ⟨hending, hfull⟩ := houtcome.behind hspins hhere
        rw [houtcome.spins_iff hending hfull hspace, ← spins_update run.level hindex]
          at hspins
        rw [if_neg hending] at hpacket
        obtain ⟨r, hr, rfl⟩ := Option.map_eq_some_iff.mp hpacket
        have hmore := ih (forall_update hindex hmarked') hrest
          (forall_update (P := fun l => l.maxNextsPerStream = maxNextsPerStream ∧
            l.nextsSoFar + 1 = maxNextsPerStream) hindex hcount') hspins hr
        dsimp only
        rw [List.length_append]
        exact hmore.trans (Nat.le_add_left _ _)

/-! ### The order of the levels -/

theorem writeLevel_index
    (hrun : writeLevel streams streamPerPacket index fuel level connWritableBytes p = some run) :
    ∀ o ∈ run.offers, o.index = index := by
  induction fuel generalizing level connWritableBytes p run with
  | zero => cases hrun
  | succ fuel ih =>
    unfold writeLevel at hrun
    split at hrun
    · cases hrun
    · next current hnext =>
        dsimp only at hrun
        generalize SchedulingConn.writeSingleStream (streams current.streamId).nonDsr
          connWritableBytes p = r at hrun
        obtain ⟨passed, c, p'⟩ := r
        dsimp only at hrun
        split at hrun
        · cases hrun
          exact fun o ho => absurd ho List.not_mem_nil
        have hone : ∀ o ∈ [(⟨index, current, passed⟩ : StreamOffer)], o.index = index := by
          simp
        split at hrun
        · cases hrun
          exact hone
        split at hrun
        · cases hrun
          exact hone
        split at hrun
        · cases hrun
          exact hone
        · obtain ⟨run', hrun', rfl⟩ := Option.map_eq_some_iff.mp hrun
          intro o ho
          rcases List.mem_cons.mp ho with rfl | ho
          · rfl
          · exact @ih _ _ _ run' hrun' o ho

theorem mem_or_behind {offers offers' before after : List StreamOffer} {o : StreamOffer}
    (h : offers ++ offers' = before ++ o :: after) :
    o ∈ offers ∨ ∃ between, before = offers ++ between ∧ offers' = between ++ o :: after := by
  rcases List.append_eq_append_iff.mp h with ⟨between, rfl, hrest⟩ | ⟨between, rfl, hrest⟩
  · exact .inr ⟨between, rfl, hrest⟩
  · cases between with
    | nil => exact .inr ⟨[], by rw [List.append_nil, List.append_nil], hrest.symm⟩
    | cons o' between =>
      obtain ⟨rfl, -⟩ := List.cons.inj hrest
      exact .inl (List.mem_append_right _ List.mem_cons_self)

theorem urgentFirst_nil : UrgentFirst levels indices [] := by
  intro before o after hoffers
  simp at hoffers

/-- A packet serves the more urgent levels first. -/
theorem writeLevels_urgent (hmarked : ∀ index ∈ indices, LevelMarked (levels index))
    (hsorted : indices.Pairwise (· < ·))
    (hpacket : writeLevels streams streamPerPacket indices levels connWritableBytes p =
      some packet) :
    (∀ o ∈ packet.offers, o.index ∈ indices) ∧ UrgentFirst levels indices packet.offers := by
  induction indices generalizing levels connWritableBytes p packet with
  | nil =>
    cases hpacket
    exact ⟨fun o ho => absurd ho List.not_mem_nil, urgentFirst_nil⟩
  | cons index rest ih =>
    obtain ⟨hbefore, hrest⟩ := List.pairwise_cons.mp hsorted
    have hindex : index ∉ rest := fun hmem => Fin.lt_irrefl index (hbefore index hmem)
    have hmarked' : ∀ other ∈ rest, LevelMarked (levels other) :=
      fun other hother => hmarked other (List.mem_cons_of_mem _ hother)
    by_cases hspace : p.remainingSpaceInPkt = 0
    · obtain ⟨packet', hpacket', hnone⟩ := writeLevels_full streams
        streamPerPacket levels (index :: rest) connWritableBytes hspace
      rw [hpacket] at hpacket'
      cases hpacket'
      rw [hnone]
      exact ⟨fun o ho => absurd ho List.not_mem_nil, urgentFirst_nil⟩
    by_cases hempty : (levels index).streams = []
    · rw [writeLevels_empty hspace hempty] at hpacket
      obtain ⟨hindices, hfirst⟩ := ih hmarked' hrest hpacket
      refine ⟨fun o ho => List.mem_cons_of_mem _ (hindices o ho), ?_⟩
      intro before o after hoffers other hother hlt
      rcases List.mem_cons.mp hother with rfl | hother
      · refine .inl fun x hx => ?_
        rw [hempty] at hx
        exact absurd hx List.not_mem_nil
      · exact hfirst before o after hoffers other hother hlt
    · have hlevel := hmarked index List.mem_cons_self
      obtain ⟨run, hrun⟩ := writeLevel_begin_isSome streams
        streamPerPacket connWritableBytes p hlevel hempty
      obtain ⟨houtcome, hcons⟩ := writeLevels_cons hlevel hspace hempty hrun
      have hhere := writeLevel_index hrun
      have hleast : ∀ other ∈ index :: rest, ¬ other < index := by
        intro other hother hlt
        rcases List.mem_cons.mp hother with rfl | hother
        · exact Fin.lt_irrefl _ hlt
        · exact Fin.lt_asymm hlt (hbefore other hother)
      rw [hcons] at hpacket
      split at hpacket
      · cases hpacket
        refine ⟨fun o ho => hhere o ho ▸ List.mem_cons_self, ?_⟩
        intro before o after hoffers other hother hlt
        have ho : o ∈ run.offers := by
          have hmem : o ∈ before ++ o :: after := List.mem_append_right _ List.mem_cons_self
          rwa [← hoffers] at hmem
        rw [hhere o ho] at hlt
        exact absurd hlt (hleast other hother)
      · next hending =>
          obtain ⟨r, hr, rfl⟩ := Option.map_eq_some_iff.mp hpacket
          obtain ⟨hindices, hfirst⟩ := ih (forall_update hindex hmarked') hrest hr
          dsimp only
          refine ⟨fun o ho => ?_, ?_⟩
          · rcases List.mem_append.mp ho with ho | ho
            · exact hhere o ho ▸ List.mem_cons_self
            · exact List.mem_cons_of_mem _ (hindices o ho)
          intro before o after hoffers other hother hlt
          rcases mem_or_behind hoffers with ho | ⟨A, rfl, hA⟩
          · rw [hhere o ho] at hlt
            exact absurd hlt (hleast other hother)
          -- The offer is behind this level.
          rcases List.mem_cons.mp hother with rfl | hbehind
          · have hspaceLeft : run.space.remainingSpaceInPkt ≠ 0 := by
              intro hfull
              obtain ⟨packet, hpacket, hnone⟩ := writeLevels_full streams
                streamPerPacket (Function.update levels other run.level) rest
                run.connWritableBytes hfull
              rw [hr] at hpacket
              cases hpacket
              rw [hnone] at hA
              simp at hA
            refine (houtcome.offered hending hspaceLeft).imp (fun hall x hx => ?_) ?_
            · obtain ⟨o', ho', hstream⟩ := hall x hx
              exact ⟨o', List.mem_append_left _ ho', hhere o' ho', hstream⟩
            · rintro ⟨o', ho', hrefused⟩
              exact ⟨o', List.mem_append_left _ ho', hhere o' ho', hrefused⟩
          · have hne : other ≠ index := by
              rintro rfl
              exact hindex hbehind
            have hrestFirst := hfirst A o after hA other hbehind hlt
            rw [Function.update_of_ne hne] at hrestFirst
            refine hrestFirst.imp (fun hall x hx => ?_) ?_
            · obtain ⟨o', ho', hstream⟩ := hall x hx
              exact ⟨o', List.mem_append_right _ ho', hstream⟩
            · rintro ⟨o', ho', hrefused⟩
              exact ⟨o', List.mem_append_right _ ho', hrefused⟩

end

end StreamFrameScheduler

end MasqueQuic

