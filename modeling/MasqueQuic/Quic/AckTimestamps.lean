/-
The receive timestamps of an ACK frame.

`parseAckReceiveTimestamps` walks through the ranges that the peer has sent. It computes packet
numbers and times in 64 bits: a gap is subtracted as it is, the step to the next number stops at
0, and a delta is subtracted from the time before it. `recorded` lists what it puts into the
map, in that order; nothing reads it.

`readTimestamps` reads the same ranges as what they stand for. There a gap that is larger than
the number it is counted from, a timestamp after that of packet 0 and a delta that is larger
than the time before it make the frame unusable. `timestampsInOrder_iff` compares the two.
-/

import MasqueQuic.Quic.GroupStreamCodec

namespace MasqueQuic

/-! ### The walk through the ranges -/

structure TimestampState where
  receivedPacketNum : Nat
  receiveTimeStamp : Nat
  packetReceiveTimeStamps : List (Nat × Nat)
  recorded : List (Nat × Nat)

namespace TimestampState

/-- `packetReceiveTimeStamps[key] = value`. -/
def assign (map : List (Nat × Nat)) (key value : Nat) : List (Nat × Nat) :=
  if map.any (·.1 = key) then map.map fun entry => if entry.1 = key then (key, value) else entry
  else map ++ [(key, value)]

def decrementPacketNum (pktNum : Nat) : Nat := if pktNum > 0 then pktNum - 1 else 0

def record (s : TimestampState) (delta : Nat) : TimestampState :=
  let receiveTimeStamp := sub64 s.receiveTimeStamp delta
  { receivedPacketNum := decrementPacketNum s.receivedPacketNum
    receiveTimeStamp := receiveTimeStamp
    packetReceiveTimeStamps :=
      assign s.packetReceiveTimeStamps s.receivedPacketNum receiveTimeStamp
    recorded := s.recorded ++ [(s.receivedPacketNum, receiveTimeStamp)] }

/-- `receivedPacketNum -= timeStampRange.gap`. -/
def skip (s : TimestampState) (gap : Nat) : TimestampState :=
  { s with receivedPacketNum := sub64 s.receivedPacketNum gap }

/-- The additional decrement at the end of a range. -/
def next (s : TimestampState) : TimestampState :=
  { s with receivedPacketNum := decrementPacketNum s.receivedPacketNum }

/-- The loop over the deltas of a range, and whether it returns from the function. -/
def walkDeltas (firstPacketNum maxReceiveTimestamps : Nat) :
    List Nat → TimestampState → TimestampState × Bool
  | [], s => (s, false)
  | delta :: deltas, s =>
      if s.receivedPacketNum < firstPacketNum then (s, true)
      else if s.packetReceiveTimeStamps.length ≥ maxReceiveTimestamps then (s, true)
      else walkDeltas firstPacketNum maxReceiveTimestamps deltas (s.record delta)

/-- The loop over the ranges. -/
def walkRanges (firstPacketNum maxReceiveTimestamps : Nat) :
    List RecvdPacketsTimestampsRange → TimestampState → TimestampState
  | [], s => s
  | timeStampRange :: ranges, s =>
      let walked := walkDeltas firstPacketNum maxReceiveTimestamps timeStampRange.deltas
        (s.skip timeStampRange.gap)
      if walked.2 then walked.1
      else walkRanges firstPacketNum maxReceiveTimestamps ranges walked.1.next

end TimestampState

/-- The first delta of the first range; without it the frame is not looked at. -/
def firstDelta (ranges : List RecvdPacketsTimestampsRange) : Option Nat :=
  ranges.head?.bind fun range => range.deltas.head?

/-- `maxReceiveTimestampsPerAck` is that of the configuration sent to the peer, if there is one. The
result is the map, and what has been put into it. -/
def parseAckReceiveTimestamps (maxReceiveTimestampsPerAck : Option Nat)
    (frame : ReceiveTimestamps) (firstPacketNum : Option Nat) :
    List (Nat × Nat) × List (Nat × Nat) :=
  match maxReceiveTimestampsPerAck, firstDelta frame.recvdPacketsTimestampRanges,
      firstPacketNum with
  | some maxReceiveTimestamps, some delta, some firstPacketNum =>
      if frame.latestRecvdPacketNum < firstPacketNum then ([], [])
      else
        let s := TimestampState.walkRanges firstPacketNum maxReceiveTimestamps
          frame.recvdPacketsTimestampRanges
          { receivedPacketNum := frame.latestRecvdPacketNum
            receiveTimeStamp := 2 * delta % 2 ^ 64
            packetReceiveTimeStamps := []
            recorded := [] }
        (s.packetReceiveTimeStamps, s.recorded)
  | _, _, _ => ([], [])

/-! ### What the ranges stand for -/

/-- `left` is the next packet number, `none` when there is no number left, and `time` the time
of the last entry. -/
structure TimestampReading where
  left : Option Nat
  time : Option Nat
  entries : List (Nat × Nat)

namespace TimestampReading

/-- Whether the time can lie `delta` before the last one. The first delta is a time. -/
def timeAfter (time : Option Nat) (delta : Nat) : Option Nat :=
  match time with
  | none => some delta
  | some time => if delta ≤ time then some (time - delta) else none

def record (r : TimestampReading) (packetNum time : Nat) : TimestampReading where
  left := if packetNum = 0 then none else some (packetNum - 1)
  time := some time
  entries := r.entries ++ [(packetNum, time)]

/-- The entries of a range, and whether nothing more is asked for. -/
def readDeltas (firstPacketNum maxReceiveTimestamps : Nat) :
    List Nat → TimestampReading → Option (TimestampReading × Bool)
  | [], r => some (r, false)
  | delta :: deltas, r =>
      if r.entries.length ≥ maxReceiveTimestamps then some (r, true)
      else
        match r.left with
        | none => none
        | some packetNum =>
            if packetNum < firstPacketNum then some (r, true)
            else
              match timeAfter r.time delta with
              | none => none
              | some time =>
                  readDeltas firstPacketNum maxReceiveTimestamps deltas (r.record packetNum time)

/-- `gap` numbers are passed over. -/
def skip (r : TimestampReading) (gap : Nat) : TimestampReading :=
  { r with left := r.left.bind fun packetNum =>
      if gap ≤ packetNum then some (packetNum - gap) else none }

/-- One more number is passed over between the ranges, if there is one. -/
def next (r : TimestampReading) : TimestampReading := { r with left := r.left.map (· - 1) }

def readRanges (firstPacketNum maxReceiveTimestamps : Nat) :
    List RecvdPacketsTimestampsRange → TimestampReading → Option (List (Nat × Nat))
  | [], r => some r.entries
  | timeStampRange :: ranges, r =>
      (readDeltas firstPacketNum maxReceiveTimestamps timeStampRange.deltas
          (r.skip timeStampRange.gap)).bind fun read =>
        if read.2 then some read.1.entries
        else readRanges firstPacketNum maxReceiveTimestamps ranges read.1.next

end TimestampReading

/-- The entries of the frame that are asked for. -/
def readTimestamps (maxReceiveTimestampsPerAck : Option Nat) (frame : ReceiveTimestamps)
    (firstPacketNum : Option Nat) : Option (List (Nat × Nat)) :=
  match maxReceiveTimestampsPerAck, firstDelta frame.recvdPacketsTimestampRanges,
      firstPacketNum with
  | some maxReceiveTimestamps, some _, some firstPacketNum =>
      if frame.latestRecvdPacketNum < firstPacketNum then some []
      else TimestampReading.readRanges firstPacketNum maxReceiveTimestamps
        frame.recvdPacketsTimestampRanges ⟨some frame.latestRecvdPacketNum, none, []⟩
  | _, _, _ => some []

/-! ### Entries in order -/

/-- Numbers between the two bounds that decrease, and times that do not increase. -/
structure EntriesInOrder (firstPacketNum latestRecvdPacketNum : Nat)
    (entries : List (Nat × Nat)) : Prop where
  bounds : ∀ entry ∈ entries, firstPacketNum ≤ entry.1 ∧ entry.1 ≤ latestRecvdPacketNum
  order : entries.Pairwise fun entry later => later.1 < entry.1 ∧ later.2 ≤ entry.2

theorem EntriesInOrder.append {firstPacketNum latestRecvdPacketNum packetNum time : Nat}
    {entries : List (Nat × Nat)}
    (h : EntriesInOrder firstPacketNum latestRecvdPacketNum entries)
    (hfirst : firstPacketNum ≤ packetNum) (hlatest : packetNum ≤ latestRecvdPacketNum)
    (hbelow : ∀ entry ∈ entries, packetNum < entry.1 ∧ time ≤ entry.2) :
    EntriesInOrder firstPacketNum latestRecvdPacketNum (entries ++ [(packetNum, time)]) := by
  constructor
  · intro entry hentry
    rcases List.mem_append.mp hentry with hentry | hentry
    · exact h.bounds entry hentry
    · rw [List.mem_singleton.mp hentry]
      exact ⟨hfirst, hlatest⟩
  · rw [List.pairwise_append]
    refine ⟨h.order, List.pairwise_singleton _ _, ?_⟩
    intro entry hentry later hlater
    rw [List.mem_singleton.mp hlater]
    exact hbelow entry hentry

namespace TimestampState

variable {firstPacketNum maxReceiveTimestamps latest : Nat} {s : TimestampState}
  {r : TimestampReading}

/-- What the loop does from the middle of a range on. -/
def walk (firstPacketNum maxReceiveTimestamps : Nat) (deltas : List Nat)
    (ranges : List RecvdPacketsTimestampsRange) (s : TimestampState) : TimestampState :=
  let walked := walkDeltas firstPacketNum maxReceiveTimestamps deltas s
  if walked.2 then walked.1
  else walkRanges firstPacketNum maxReceiveTimestamps ranges walked.1.next

theorem walkRanges_cons (timeStampRange : RecvdPacketsTimestampsRange)
    (ranges : List RecvdPacketsTimestampsRange) (s : TimestampState) :
    walkRanges firstPacketNum maxReceiveTimestamps (timeStampRange :: ranges) s =
      walk firstPacketNum maxReceiveTimestamps timeStampRange.deltas ranges
        (s.skip timeStampRange.gap) := by
  rw [walkRanges, walk]

@[simp] theorem skip_receivedPacketNum (s : TimestampState) (gap : Nat) :
    (s.skip gap).receivedPacketNum = sub64 s.receivedPacketNum gap := by
  rw [skip]

@[simp] theorem skip_receiveTimeStamp (s : TimestampState) (gap : Nat) :
    (s.skip gap).receiveTimeStamp = s.receiveTimeStamp := by
  rw [skip]

@[simp] theorem skip_packetReceiveTimeStamps (s : TimestampState) (gap : Nat) :
    (s.skip gap).packetReceiveTimeStamps = s.packetReceiveTimeStamps := by
  rw [skip]

@[simp] theorem skip_recorded (s : TimestampState) (gap : Nat) :
    (s.skip gap).recorded = s.recorded := by
  rw [skip]

@[simp] theorem next_receivedPacketNum (s : TimestampState) :
    s.next.receivedPacketNum = decrementPacketNum s.receivedPacketNum := by
  rw [next]

@[simp] theorem next_receiveTimeStamp (s : TimestampState) :
    s.next.receiveTimeStamp = s.receiveTimeStamp := by
  rw [next]

@[simp] theorem next_packetReceiveTimeStamps (s : TimestampState) :
    s.next.packetReceiveTimeStamps = s.packetReceiveTimeStamps := by
  rw [next]

@[simp] theorem next_recorded (s : TimestampState) :
    s.next.recorded = s.recorded := by
  rw [next]

theorem assign_of_lt {map : List (Nat × Nat)} {key : Nat} (h : ∀ entry ∈ map, key < entry.1)
    (value : Nat) : assign map key value = map ++ [(key, value)] := by
  unfold assign
  rw [if_neg]
  intro hany
  obtain ⟨entry, hentry, hkey⟩ := List.any_eq_true.mp hany
  have hlt := h entry hentry
  rw [← of_decide_eq_true hkey] at hlt
  exact Nat.lt_irrefl _ hlt

/-! #### What has been recorded stays -/

theorem recorded_walkDeltas (deltas : List Nat) (s : TimestampState) :
    s.recorded <+: (walkDeltas firstPacketNum maxReceiveTimestamps deltas s).1.recorded := by
  induction deltas generalizing s with
  | nil => exact List.prefix_refl _
  | cons delta deltas ih =>
    unfold walkDeltas
    split
    · exact List.prefix_refl _
    · split
      · exact List.prefix_refl _
      · exact (List.prefix_append _ _).trans (ih (s.record delta))

theorem recorded_walk (deltas : List Nat) (ranges : List RecvdPacketsTimestampsRange)
    (s : TimestampState) :
    s.recorded <+: (walk firstPacketNum maxReceiveTimestamps deltas ranges s).recorded := by
  induction ranges generalizing deltas s with
  | nil =>
    have hdeltas : s.recorded <+:
        (walkDeltas firstPacketNum maxReceiveTimestamps deltas s).1.recorded :=
      recorded_walkDeltas deltas s
    unfold walk
    dsimp only
    split
    · exact hdeltas
    · exact hdeltas
  | cons timeStampRange ranges ih =>
    have hdeltas : s.recorded <+:
        (walkDeltas firstPacketNum maxReceiveTimestamps deltas s).1.recorded :=
      recorded_walkDeltas deltas s
    unfold walk
    dsimp only
    generalize walkDeltas firstPacketNum maxReceiveTimestamps deltas s = walked at hdeltas ⊢
    split
    · exact hdeltas
    · have hrest := ih timeStampRange.deltas (walked.1.next.skip timeStampRange.gap)
      rw [skip_recorded, next_recorded] at hrest
      rw [walkRanges_cons]
      exact hdeltas.trans hrest

/-! #### The walk and the reading -/

/-- The walk has recorded what has been read, and goes on where the reading does. -/
structure Tracks (firstPacketNum latest : Nat) (r : TimestampReading) (s : TimestampState) :
    Prop where
  recorded : s.recorded = r.entries
  map : s.packetReceiveTimeStamps = r.entries
  inOrder : EntriesInOrder firstPacketNum latest r.entries
  left : ∀ packetNum, r.left = some packetNum → s.receivedPacketNum = packetNum ∧
    packetNum ≤ latest ∧ ∀ entry ∈ r.entries, packetNum < entry.1
  time : ∃ time, r.time = some time ∧ s.receiveTimeStamp = time ∧ time < 2 ^ 63 ∧
    ∀ entry ∈ r.entries, time ≤ entry.2

/-- An entry that can be read is recorded as it is read. -/
theorem Tracks.record {delta packetNum time : Nat} (h : Tracks firstPacketNum latest r s)
    (hleft : r.left = some packetNum) (hfirst : firstPacketNum ≤ packetNum)
    (htime : TimestampReading.timeAfter r.time delta = some time) :
    Tracks firstPacketNum latest (r.record packetNum time) (s.record delta) := by
  obtain ⟨hnum, hlatest, hbelow⟩ := h.left packetNum hleft
  obtain ⟨last, hlast, hstamp, hlt, hafter⟩ := h.time
  rw [hlast] at htime
  unfold TimestampReading.timeAfter at htime
  dsimp only at htime
  split at htime
  · next hdelta =>
    cases htime
    have hsub : sub64 s.receiveTimeStamp delta = last - delta := by
      rw [hstamp]
      exact sub64_of_le hdelta (by omega)
    have hrecorded : (s.record delta).recorded = s.recorded ++ [(packetNum, last - delta)] := by
      rw [← hsub, ← hnum]
      rfl
    have hassigned : (s.record delta).packetReceiveTimeStamps =
        s.packetReceiveTimeStamps ++ [(packetNum, last - delta)] := by
      rw [← hsub, ← hnum]
      apply assign_of_lt
      rw [h.map, hnum]
      exact hbelow
    constructor
    · rw [hrecorded, h.recorded]
      rfl
    · rw [hassigned, h.map]
      rfl
    · exact h.inOrder.append hfirst hlatest fun entry hentry =>
        ⟨hbelow entry hentry, Nat.le_trans (Nat.sub_le _ _) (hafter entry hentry)⟩
    · intro next hnext
      unfold TimestampReading.record at hnext
      dsimp only at hnext
      split at hnext
      · cases hnext
      · next hpos =>
        cases hnext
        refine ⟨?_, by omega, ?_⟩
        · change decrementPacketNum s.receivedPacketNum = packetNum - 1
          unfold decrementPacketNum
          rw [hnum, if_pos (by omega)]
        · intro entry hentry
          rcases List.mem_append.mp hentry with hentry | hentry
          · have hlow := hbelow entry hentry
            omega
          · rw [List.mem_singleton.mp hentry]
            dsimp only
            omega
    · refine ⟨last - delta, rfl, hsub, by omega, ?_⟩
      intro entry hentry
      rcases List.mem_append.mp hentry with hentry | hentry
      · exact Nat.le_trans (Nat.sub_le _ _) (hafter entry hentry)
      · rw [List.mem_singleton.mp hentry]
  · cases htime

/-- The deltas of a range, as far as they can be read. -/
theorem Tracks.walkDeltas {deltas : List Nat} {stop : Bool} {r' : TimestampReading}
    (h : Tracks firstPacketNum latest r s)
    (hread : TimestampReading.readDeltas firstPacketNum maxReceiveTimestamps deltas r =
      some (r', stop)) :
    Tracks firstPacketNum latest r'
        (TimestampState.walkDeltas firstPacketNum maxReceiveTimestamps deltas s).1 ∧
      (TimestampState.walkDeltas firstPacketNum maxReceiveTimestamps deltas s).2 = stop := by
  induction deltas generalizing r s with
  | nil =>
    cases hread
    exact ⟨h, rfl⟩
  | cons delta deltas ih =>
    have hlength : s.packetReceiveTimeStamps.length = r.entries.length := by rw [h.map]
    unfold TimestampReading.readDeltas at hread
    unfold TimestampState.walkDeltas
    rw [hlength]
    split at hread
    · next hmax =>
      cases hread
      rw [if_pos hmax]
      split
      · exact ⟨h, rfl⟩
      · exact ⟨h, rfl⟩
    · next hmax =>
      cases hleft : r.left with
      | none =>
        rw [hleft] at hread
        cases hread
      | some packetNum =>
        obtain ⟨hnum, -, -⟩ := h.left packetNum hleft
        rw [hleft] at hread
        dsimp only at hread
        rw [hnum]
        split at hread
        · next hfirst =>
          cases hread
          rw [if_pos hfirst]
          exact ⟨h, rfl⟩
        · next hfirst =>
          rw [if_neg hfirst, if_neg hmax]
          cases htime : TimestampReading.timeAfter r.time delta with
          | none =>
            rw [htime] at hread
            cases hread
          | some time =>
            rw [htime] at hread
            exact ih (h.record hleft (Nat.le_of_not_lt hfirst) htime) hread

theorem Tracks.skip {gap : Nat} (h : Tracks firstPacketNum latest r s)
    (hlatest : latest < 2 ^ 62) : Tracks firstPacketNum latest (r.skip gap) (s.skip gap) := by
  constructor
  · rw [skip_recorded, h.recorded]
    rfl
  · rw [skip_packetReceiveTimeStamps, h.map]
    rfl
  · exact h.inOrder
  · intro packetNum hleft
    obtain ⟨before, hbefore, hgap⟩ := Option.bind_eq_some_iff.mp hleft
    obtain ⟨hnum, hle, hbelow⟩ := h.left before hbefore
    split at hgap
    · next hfits =>
      cases hgap
      refine ⟨?_, by omega, ?_⟩
      · rw [skip_receivedPacketNum, hnum]
        exact sub64_of_le hfits (by omega)
      · intro entry hentry
        have hlow := hbelow entry hentry
        omega
    · cases hgap
  · rw [skip_receiveTimeStamp]
    exact h.time

theorem Tracks.next (h : Tracks firstPacketNum latest r s) :
    Tracks firstPacketNum latest r.next s.next := by
  constructor
  · rw [next_recorded, h.recorded]
    rfl
  · rw [next_packetReceiveTimeStamps, h.map]
    rfl
  · exact h.inOrder
  · intro packetNum hleft
    obtain ⟨before, hbefore, rfl⟩ := Option.map_eq_some_iff.mp hleft
    obtain ⟨hnum, hle, hbelow⟩ := h.left before hbefore
    refine ⟨?_, by omega, ?_⟩
    · rw [next_receivedPacketNum, hnum]
      unfold decrementPacketNum
      split
      · rfl
      · omega
    · intro entry hentry
      have hlow := hbelow entry hentry
      omega
  · rw [next_receiveTimeStamp]
    exact h.time

/-- The rest of a range and the ranges after it. -/
theorem Tracks.walk {deltas : List Nat} {ranges : List RecvdPacketsTimestampsRange}
    {entries : List (Nat × Nat)} (h : Tracks firstPacketNum latest r s) (hlatest : latest < 2 ^ 62)
    (hread : ((TimestampReading.readDeltas firstPacketNum maxReceiveTimestamps deltas r).bind
      fun read => if read.2 then some read.1.entries
        else TimestampReading.readRanges firstPacketNum maxReceiveTimestamps ranges
          read.1.next) = some entries) :
    ∃ r', r'.entries = entries ∧ Tracks firstPacketNum latest r'
      (TimestampState.walk firstPacketNum maxReceiveTimestamps deltas ranges s) := by
  induction ranges generalizing deltas r s with
  | nil =>
    obtain ⟨⟨r', stop⟩, hdeltas, hread⟩ := Option.bind_eq_some_iff.mp hread
    obtain ⟨hwalk, hstop⟩ := h.walkDeltas hdeltas
    unfold TimestampState.walk
    dsimp only
    rw [hstop]
    cases stop with
    | true =>
      cases hread
      exact ⟨r', rfl, hwalk⟩
    | false =>
      cases hread
      exact ⟨r'.next, rfl, hwalk.next⟩
  | cons timeStampRange ranges ih =>
    obtain ⟨⟨r', stop⟩, hdeltas, hread⟩ := Option.bind_eq_some_iff.mp hread
    obtain ⟨hwalk, hstop⟩ := h.walkDeltas hdeltas
    unfold TimestampState.walk
    dsimp only
    rw [hstop]
    cases stop with
    | true =>
      cases hread
      exact ⟨r', rfl, hwalk⟩
    | false =>
      rw [if_neg Bool.false_ne_true, walkRanges_cons]
      exact ih (hwalk.next.skip hlatest) hread

/-! #### The first timestamp -/

/-- The state before the first range. -/
def start (latest delta : Nat) : TimestampState where
  receivedPacketNum := latest
  receiveTimeStamp := 2 * delta % 2 ^ 64
  packetReceiveTimeStamps := []
  recorded := []

/-- The first entry that can be read is recorded. -/
theorem tracks_first {gap delta : Nat} (hgap : gap ≤ latest)
    (hfirst : firstPacketNum ≤ latest - gap) (hlatest : latest < 2 ^ 62) (hdelta : delta < 2 ^ 63) :
    Tracks firstPacketNum latest (TimestampReading.record ⟨some (latest - gap), none, []⟩
      (latest - gap) delta) (((start latest delta).skip gap).record delta) := by
  have hnum : ((start latest delta).skip gap).receivedPacketNum = latest - gap := by
    rw [skip_receivedPacketNum]
    change sub64 latest gap = latest - gap
    exact sub64_of_le hgap (by omega)
  have htime : sub64 ((start latest delta).skip gap).receiveTimeStamp delta = delta := by
    rw [skip_receiveTimeStamp]
    change sub64 (2 * delta % 2 ^ 64) delta = delta
    rw [Nat.mod_eq_of_lt (by omega), sub64_of_le (by omega) (by omega)]
    omega
  have hrecorded : (((start latest delta).skip gap).record delta).recorded =
      [(latest - gap, delta)] := by
    rw [TimestampState.record]
    dsimp only
    rw [htime, hnum, skip_recorded]
    rfl
  have hassigned : (((start latest delta).skip gap).record delta).packetReceiveTimeStamps =
      [(latest - gap, delta)] := by
    rw [TimestampState.record]
    dsimp only
    rw [htime, hnum, skip_packetReceiveTimeStamps]
    rfl
  constructor
  · exact hrecorded
  · exact hassigned
  · exact EntriesInOrder.append ⟨by simp, List.Pairwise.nil⟩ hfirst (Nat.sub_le _ _) (by simp)
  · intro next hnext
    unfold TimestampReading.record at hnext
    dsimp only at hnext
    split at hnext
    · cases hnext
    · next hpos =>
      cases hnext
      refine ⟨?_, by omega, ?_⟩
      · rw [TimestampState.record]
        dsimp only
        unfold decrementPacketNum
        rw [hnum, if_pos (by omega)]
      · intro entry hentry
        rw [List.mem_singleton.mp hentry]
        dsimp only
        omega
  · refine ⟨delta, rfl, ?_, hdelta, ?_⟩
    · rw [TimestampState.record]
      exact htime
    · intro entry hentry
      rw [List.mem_singleton.mp hentry]

theorem walk_stop {delta : Nat} {deltas : List Nat} {ranges : List RecvdPacketsTimestampsRange}
    (h : s.receivedPacketNum < firstPacketNum ∨
      maxReceiveTimestamps ≤ s.packetReceiveTimeStamps.length) :
    TimestampState.walk firstPacketNum maxReceiveTimestamps (delta :: deltas) ranges s = s := by
  unfold TimestampState.walk TimestampState.walkDeltas
  by_cases hfirst : s.receivedPacketNum < firstPacketNum
  · rw [if_pos hfirst]
    rfl
  · rw [if_neg hfirst, if_pos (h.resolve_left hfirst)]
    rfl

theorem walk_record {delta : Nat} {deltas : List Nat} {ranges : List RecvdPacketsTimestampsRange}
    (hfirst : firstPacketNum ≤ s.receivedPacketNum)
    (hmax : s.packetReceiveTimeStamps.length < maxReceiveTimestamps) :
    TimestampState.walk firstPacketNum maxReceiveTimestamps (delta :: deltas) ranges s =
      TimestampState.walk firstPacketNum maxReceiveTimestamps deltas ranges (s.record delta) := by
  unfold TimestampState.walk
  rw [TimestampState.walkDeltas, if_neg (Nat.not_lt.mpr hfirst), if_neg (Nat.not_le.mpr hmax)]

/-- Once an entry has been recorded, the walk ends with one. -/
theorem recorded_ne_nil {delta : Nat} {deltas : List Nat}
    {ranges : List RecvdPacketsTimestampsRange} :
    (TimestampState.walk firstPacketNum maxReceiveTimestamps deltas ranges
      (s.record delta)).recorded ≠ [] := by
  intro hnil
  have hstays : (s.record delta).recorded <+: (TimestampState.walk firstPacketNum
      maxReceiveTimestamps deltas ranges (s.record delta)).recorded :=
    recorded_walk deltas ranges (s.record delta)
  rw [hnil, List.prefix_nil] at hstays
  exact List.append_ne_nil_of_right_ne_nil _ (List.cons_ne_nil _ _) hstays

/-- What can be read is recorded as it is read; of what cannot be read, something is recorded. -/
structure Follows (firstPacketNum latest : Nat) (reading : Option (List (Nat × Nat)))
    (s : TimestampState) : Prop where
  read : ∀ entries, reading = some entries → s.recorded = entries ∧
    s.packetReceiveTimeStamps = entries ∧ EntriesInOrder firstPacketNum latest entries
  used : reading = none → s.recorded ≠ []

theorem Follows.of_nothing (h : s.recorded = []) (hmap : s.packetReceiveTimeStamps = []) :
    Follows firstPacketNum latest (some []) s := by
  constructor
  · intro entries hread
    cases hread
    exact ⟨h, hmap, by simp, List.Pairwise.nil⟩
  · intro hread
    cases hread

theorem walkRanges_follows {gap count delta : Nat} {deltas : List Nat}
    {ranges : List RecvdPacketsTimestampsRange} (hfirst : firstPacketNum ≤ latest)
    (hlatest : latest < 2 ^ 62) (hgap : gap < 2 ^ 62) (hdelta : delta < 2 ^ 63) :
    Follows firstPacketNum latest
      (TimestampReading.readRanges firstPacketNum maxReceiveTimestamps
        (⟨gap, count, delta :: deltas⟩ :: ranges) ⟨some latest, none, []⟩)
      (walkRanges firstPacketNum maxReceiveTimestamps
        (⟨gap, count, delta :: deltas⟩ :: ranges) (start latest delta)) := by
  have hmap : ((start latest delta).skip gap).packetReceiveTimeStamps = [] := by
    rw [skip_packetReceiveTimeStamps]
    rfl
  have hrecorded : ((start latest delta).skip gap).recorded = [] := by
    rw [skip_recorded]
    rfl
  have hnum : ((start latest delta).skip gap).receivedPacketNum = sub64 latest gap := by
    rw [skip_receivedPacketNum]
    rfl
  rw [walkRanges_cons, TimestampReading.readRanges, TimestampReading.readDeltas]
  unfold TimestampReading.skip
  dsimp only [Option.bind_some, List.length_nil]
  by_cases hmax : 0 ≥ maxReceiveTimestamps
  · rw [if_pos hmax, walk_stop (.inr (by rw [hmap]; exact hmax))]
    exact .of_nothing hrecorded hmap
  rw [if_neg hmax]
  have hlength : ((start latest delta).skip gap).packetReceiveTimeStamps.length <
      maxReceiveTimestamps := by
    rw [hmap]
    exact Nat.lt_of_not_le hmax
  by_cases hfits : gap ≤ latest
  · rw [if_pos hfits]
    dsimp only
    rw [sub64_of_le hfits (by omega)] at hnum
    by_cases hbelow : latest - gap < firstPacketNum
    · rw [if_pos hbelow, walk_stop (.inl (by rw [hnum]; exact hbelow))]
      exact .of_nothing hrecorded hmap
    · have habove : firstPacketNum ≤ latest - gap := Nat.le_of_not_lt hbelow
      rw [if_neg hbelow, walk_record (by rw [hnum]; exact habove) hlength]
      have htracks := tracks_first hfits habove hlatest hdelta
      constructor
      · intro entries hread
        obtain ⟨r', rfl, hwalk⟩ := htracks.walk hlatest hread
        exact ⟨hwalk.recorded, hwalk.map, hwalk.inOrder⟩
      · exact fun _ => recorded_ne_nil
  · rw [if_neg hfits]
    dsimp only
    have hwrapped : firstPacketNum ≤ sub64 latest gap := by
      rw [sub64_of_lt (Nat.lt_of_not_le hfits)]
      omega
    rw [walk_record (by rw [hnum]; exact hwrapped) hlength]
    constructor
    · intro entries hread
      cases hread
    · exact fun _ => recorded_ne_nil

end TimestampState

/-! ### Decoded frames -/

section Decoded

open FrameReader

variable {p : CodecParameters} {bytes rest : Bytes}

/-- What the varints and the check of the delays leave of the ranges. -/
def RangesFit (ranges : List RecvdPacketsTimestampsRange) : Prop :=
  ∀ range ∈ ranges, range.gap < 2 ^ 62 ∧ ∀ delta ∈ range.deltas, delta < 2 ^ 63

theorem integer_lt {what : String} {value : Nat}
    (h : (integer what).run bytes = .ok (value, rest)) : value < 2 ^ 62 := by
  obtain ⟨e, ⟨k, hk, -, hlt, -⟩, -⟩ := integer_run_ok h
  have hwidth : 8 * 2 ^ k - 2 ≤ 62 := by
    have hpow := two_pow_le_eight hk
    omega
  exact Nat.lt_of_lt_of_le hlt (Nat.pow_le_pow_right (by decide) hwidth)

theorem convert_lt {exponentToUse delay adjusted : Nat}
    (h : (p.convertEncodedDurationToMicroseconds exponentToUse delay).run bytes =
      .ok (adjusted, rest)) : adjusted < 2 ^ 63 := by
  unfold CodecParameters.convertEncodedDurationToMicroseconds at h
  simp only [StateT.run_bind, except_bind_eq_ok] at h
  obtain ⟨_, _, ⟨⟨⟩, rest'⟩, hcheck, hreturn⟩ := h
  cases hreturn
  unfold throwIf Reader.guard at hcheck
  change (if _ then _ else _) = _ at hcheck
  split at hcheck
  · next hle =>
    simp only [Bool.not_eq_true', decide_eq_false_iff_not] at hle
    omega
  · cases hcheck

theorem decodeDeltas_lt {n : Nat} {deltas : List Nat}
    (h : (decodeDeltas p n).run bytes = .ok (deltas, rest)) : ∀ delta ∈ deltas, delta < 2 ^ 63 := by
  induction n generalizing bytes deltas with
  | zero =>
    cases h
    simp
  | succ i ih =>
    unfold decodeDeltas at h
    simp only [StateT.run_bind, except_bind_eq_ok] at h
    obtain ⟨_, _, ⟨adjusted, _⟩, hadjusted, ⟨others, _⟩, hothers, hreturn⟩ := h
    cases hreturn
    rw [List.forall_mem_cons]
    exact ⟨convert_lt hadjusted, ih hothers⟩

theorem decodeTimestampRanges_fits {n : Nat} {ranges : List RecvdPacketsTimestampsRange}
    (h : (decodeTimestampRanges p n).run bytes = .ok (ranges, rest)) : RangesFit ranges := by
  induction n generalizing bytes ranges with
  | zero =>
    cases h
    simp [RangesFit]
  | succ numRanges ih =>
    unfold decodeTimestampRanges at h
    simp only [StateT.run_bind, except_bind_eq_ok] at h
    obtain ⟨⟨gap, _⟩, hgap, _, _, ⟨deltas, _⟩, hdeltas, ⟨others, _⟩, hothers, hreturn⟩ := h
    cases hreturn
    unfold RangesFit
    rw [List.forall_mem_cons]
    exact ⟨⟨integer_lt hgap, decodeDeltas_lt hdeltas⟩, ih hothers⟩

theorem decodeAckFrameWithReceivedTimestamps_fits {ackFrame : ReadAckFrame}
    {frame : ReceiveTimestamps}
    (h : (decodeAckFrameWithReceivedTimestamps p).run bytes =
      .ok (.ack ackFrame (some frame), rest)) :
    frame.latestRecvdPacketNum < 2 ^ 62 ∧ RangesFit frame.recvdPacketsTimestampRanges := by
  unfold decodeAckFrameWithReceivedTimestamps at h
  simp only [StateT.run_bind, except_bind_eq_ok] at h
  obtain ⟨_, _, ⟨latest, _⟩, hlatest, _, _, _, _, ⟨ranges, _⟩, hranges, hreturn⟩ := h
  cases hreturn
  exact ⟨integer_lt hlatest, decodeTimestampRanges_fits hranges⟩

end Decoded

/-! ### The main result -/

/-- Numbers and times are recorded in order and as the frame has them, each in an entry of its
own, and nothing of a frame that cannot be read is used. -/
structure TimestampsInOrder (maxReceiveTimestampsPerAck : Option Nat) (frame : ReceiveTimestamps)
    (firstPacketNum : Option Nat) : Prop where
  inOrder : EntriesInOrder (firstPacketNum.getD 0) frame.latestRecvdPacketNum
    (parseAckReceiveTimestamps maxReceiveTimestampsPerAck frame firstPacketNum).2
  kept : (parseAckReceiveTimestamps maxReceiveTimestampsPerAck frame firstPacketNum).1 =
    (parseAckReceiveTimestamps maxReceiveTimestampsPerAck frame firstPacketNum).2
  exact : ∀ entries, readTimestamps maxReceiveTimestampsPerAck frame firstPacketNum =
    some entries →
      (parseAckReceiveTimestamps maxReceiveTimestampsPerAck frame firstPacketNum).2 = entries
  unused : readTimestamps maxReceiveTimestampsPerAck frame firstPacketNum = none →
    (parseAckReceiveTimestamps maxReceiveTimestampsPerAck frame firstPacketNum).2 = []

theorem ranges_of_firstDelta {ranges : List RecvdPacketsTimestampsRange} {delta : Nat}
    (h : firstDelta ranges = some delta) : ∃ gap count deltas others,
      ranges = ⟨gap, count, delta :: deltas⟩ :: others := by
  obtain ⟨⟨gap, count, deltas⟩, hrange, hdelta⟩ := Option.bind_eq_some_iff.mp h
  obtain ⟨others, rfl⟩ := List.head?_eq_some_iff.mp hrange
  obtain ⟨deltas', rfl⟩ := List.head?_eq_some_iff.mp hdelta
  exact ⟨gap, count, deltas', others, rfl⟩

/-- Where nothing is asked for, nothing is recorded. -/
theorem timestampsInOrder_of_nothing {maxReceiveTimestampsPerAck firstPacketNum : Option Nat}
    {frame : ReceiveTimestamps}
    (hparse : parseAckReceiveTimestamps maxReceiveTimestampsPerAck frame firstPacketNum = ([], []))
    (hread : readTimestamps maxReceiveTimestampsPerAck frame firstPacketNum = some []) :
    TimestampsInOrder maxReceiveTimestampsPerAck frame firstPacketNum := by
  constructor
  · rw [hparse]
    exact ⟨by simp, List.Pairwise.nil⟩
  · rw [hparse]
  · intro entries hentries
    rw [hread] at hentries
    cases hentries
    rw [hparse]
  · intro hnone
    rw [hread] at hnone
    cases hnone

theorem timestampsInOrder_of_follows {maxReceiveTimestampsPerAck firstPacketNum : Option Nat}
    {frame : ReceiveTimestamps} {s : TimestampState}
    (hparse : parseAckReceiveTimestamps maxReceiveTimestampsPerAck frame firstPacketNum =
      (s.packetReceiveTimeStamps, s.recorded))
    (hfollows : s.Follows (firstPacketNum.getD 0) frame.latestRecvdPacketNum
      (readTimestamps maxReceiveTimestampsPerAck frame firstPacketNum)) :
    TimestampsInOrder maxReceiveTimestampsPerAck frame firstPacketNum ↔
      readTimestamps maxReceiveTimestampsPerAck frame firstPacketNum ≠ none := by
  constructor
  · intro h hnone
    have hunused := h.unused hnone
    rw [hparse] at hunused
    exact hfollows.used hnone hunused
  · intro hsome
    obtain ⟨entries, hentries⟩ := Option.ne_none_iff_exists'.mp hsome
    obtain ⟨hrecorded, hmap, hinOrder⟩ := hfollows.read entries hentries
    constructor
    · rw [hparse, hrecorded]
      exact hinOrder
    · rw [hparse, hrecorded, hmap]
    · intro others hothers
      rw [hentries] at hothers
      cases hothers
      rw [hparse, hrecorded]
    · intro hnone
      exact absurd hnone hsome

/-- The timestamps of an accepted frame are recorded in order exactly when what is asked for of
them can be read. -/
theorem timestampsInOrder_iff {p : CodecParameters} {bytes rest : Bytes} {ackFrame : ReadAckFrame}
    {frame : ReceiveTimestamps}
    (h : (decodeAckFrameWithReceivedTimestamps p).run bytes =
      .ok (.ack ackFrame (some frame), rest))
    (maxReceiveTimestampsPerAck firstPacketNum : Option Nat) :
    TimestampsInOrder maxReceiveTimestampsPerAck frame firstPacketNum ↔
      readTimestamps maxReceiveTimestampsPerAck frame firstPacketNum ≠ none := by
  obtain ⟨hlatest, hrange⟩ := decodeAckFrameWithReceivedTimestamps_fits h
  have hnothing : parseAckReceiveTimestamps maxReceiveTimestampsPerAck frame firstPacketNum =
        ([], []) →
      readTimestamps maxReceiveTimestampsPerAck frame firstPacketNum = some [] →
      (TimestampsInOrder maxReceiveTimestampsPerAck frame firstPacketNum ↔
        readTimestamps maxReceiveTimestampsPerAck frame firstPacketNum ≠ none) := by
    intro hparse hread
    refine iff_of_true (timestampsInOrder_of_nothing hparse hread) ?_
    rw [hread]
    exact Option.some_ne_none []
  cases hmax : maxReceiveTimestampsPerAck with
  | none =>
    rw [hmax] at hnothing
    exact hnothing rfl rfl
  | some maxReceiveTimestamps =>
    rw [hmax] at hnothing
    cases hdelta : firstDelta frame.recvdPacketsTimestampRanges with
    | none =>
      apply hnothing
      · unfold parseAckReceiveTimestamps
        rw [hdelta]
      · unfold readTimestamps
        rw [hdelta]
    | some delta =>
      cases hfirst : firstPacketNum with
      | none =>
        rw [hfirst] at hnothing
        apply hnothing
        · unfold parseAckReceiveTimestamps
          rw [hdelta]
        · unfold readTimestamps
          rw [hdelta]
      | some firstPacketNum =>
        by_cases hbelow : frame.latestRecvdPacketNum < firstPacketNum
        · rw [hfirst] at hnothing
          apply hnothing
          · unfold parseAckReceiveTimestamps
            rw [hdelta]
            exact if_pos hbelow
          · unfold readTimestamps
            rw [hdelta]
            exact if_pos hbelow
        · obtain ⟨gap, count, deltas, others, hranges⟩ := ranges_of_firstDelta hdelta
          rw [hranges] at hrange
          obtain ⟨hgap, hdeltas⟩ := hrange _ List.mem_cons_self
          apply timestampsInOrder_of_follows
            (s := TimestampState.walkRanges firstPacketNum maxReceiveTimestamps
              frame.recvdPacketsTimestampRanges
              (.start frame.latestRecvdPacketNum delta))
          · unfold parseAckReceiveTimestamps
            rw [hdelta]
            exact if_neg hbelow
          · unfold readTimestamps
            rw [hdelta]
            dsimp only [Option.getD_some]
            rw [if_neg hbelow, hranges]
            exact TimestampState.walkRanges_follows (Nat.le_of_not_lt hbelow) hlatest hgap
              (hdeltas delta List.mem_cons_self)

/-- A short header, and the default exponents. -/
def CodecParameters.sample : CodecParameters := ⟨false, 3, none, fun value _ => value⟩

/-- Two timestamps, of the packets 5 and 4. -/
theorem timestampsInOrder_two :
    ∃ ackFrame, (decodeAckFrameWithReceivedTimestamps .sample).run
        [5, 0, 0, 0, 5, 0, 1, 0, 2, 3, 1] =
      .ok (.ack ackFrame (some ⟨5, 0, [⟨0, 2, [24, 8]⟩]⟩), []) ∧
    TimestampsInOrder (some 10) ⟨5, 0, [⟨0, 2, [24, 8]⟩]⟩ (some 0) := by
  have hdecoded : ∃ ackFrame, (decodeAckFrameWithReceivedTimestamps .sample).run
        [5, 0, 0, 0, 5, 0, 1, 0, 2, 3, 1] =
      .ok (.ack ackFrame (some ⟨5, 0, [⟨0, 2, [24, 8]⟩]⟩), []) := ⟨_, rfl⟩
  obtain ⟨ackFrame, hdecode⟩ := hdecoded
  exact ⟨ackFrame, hdecode, (timestampsInOrder_iff hdecode _ _).mpr (by decide)⟩

/-- The first gap is larger than the latest packet number: the largest number there is gets a
time. -/
theorem timestampsInOrder_wraps :
    ∃ ackFrame, (decodeAckFrameWithReceivedTimestamps .sample).run
        [5, 0, 0, 0, 5, 0, 1, 6, 1, 3] =
      .ok (.ack ackFrame (some ⟨5, 0, [⟨6, 1, [24]⟩]⟩), []) ∧
    parseAckReceiveTimestamps (some 10) ⟨5, 0, [⟨6, 1, [24]⟩]⟩ (some 0) =
      ([(2 ^ 64 - 1, 24)], [(2 ^ 64 - 1, 24)]) ∧
    ¬ TimestampsInOrder (some 10) ⟨5, 0, [⟨6, 1, [24]⟩]⟩ (some 0) := by
  refine ⟨_, rfl, by decide, ?_⟩
  intro h
  have hbounds := h.inOrder.bounds (2 ^ 64 - 1, 24) (by decide)
  exact absurd hbounds.2 (by decide)

end MasqueQuic
