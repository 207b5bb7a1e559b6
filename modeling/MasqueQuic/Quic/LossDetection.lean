/-
What loss detection declares lost, and when it sets the loss time of a space.

The loop passes packets of other spaces and packets that are already lost, stops at the first
packet that is not below the largest acknowledged one, and compares a packet without DSR data with
that number. In a sorted queue it amounts to one condition on each packet (`Due`). The loss time
comes from a second pass that leaves out packets whose event has been dealt with.
-/

import MasqueQuic.Quic.AlarmConsistency

namespace MasqueQuic

variable {σ ε : Type}

/-! ### The condition on a packet -/

/-- Neither a DSR packet nor one that begins with a DSR frame. -/
def OutstandingPacket.WithoutDsr (p : OutstandingPacket) : Prop :=
  p.isDSRPacket = false ∧ p.DsrFrames

/-- No stream of the acknowledged packet is served by DSR. -/
def AckPacket.WithoutDsr (p : AckPacket) : Prop := ∀ detail ∈ p.detailsPerStream, detail.2 = none

/-- How long a packet may be outstanding, in microseconds. -/
def SendConn.delayUntilLost (c : SendConn σ) : Nat :=
  max c.lossState.srtt c.lossState.lrtt * c.transportSettings.timeReorderingThreshDividend /
    c.transportSettings.timeReorderingThreshDivisor

/-- A packet of the space below the largest acknowledged one that is not lost. -/
def Examined (pnSpace : PacketNumberSpace) (largestAcked : Option Nat) (p : OutstandingPacket) :
    Prop :=
  isOutstanding pnSpace p = true ∧ ∃ n, largestAcked = some n ∧ p.packetNum < n

/-- Its time is over, or it lies too far below the largest acknowledged packet. -/
def Overdue (c : SendConn σ) (largestAcked : Option Nat) (lossTime : Nat) (p : OutstandingPacket) :
    Prop :=
  (lossTime : Int) - p.time > 1000 * c.delayUntilLost ∨
    ∃ n, largestAcked = some n ∧ n - p.packetNum > c.lossState.reorderingThreshold

/-- A packet that the loss time may be set for. -/
def Waits (c : SendConn σ) (pnSpace : PacketNumberSpace) (p : OutstandingPacket) : Prop :=
  isOutstanding pnSpace p = true ∧ c.outstandings.processed p = false

/-- Exactly the overdue packets have been declared lost, and the loss time is that of the first
packet that waits, if one has been left that may still be lost. -/
structure LossExact (c c' : AlarmConn σ) (largestAcked : Option Nat) (lossTime : Nat)
    (pnSpace : PacketNumberSpace) : Prop where
  same : c'.conn.outstandings.packets.map (·.unmarked) =
    c.conn.outstandings.packets.map (·.unmarked)
  lost : ∀ (i : Nat) (p p' : OutstandingPacket), c.conn.outstandings.packets[i]? = some p →
    c'.conn.outstandings.packets[i]? = some p' →
      (p'.declaredLost = true ∧ p.declaredLost = false ↔
        Examined pnSpace largestAcked p ∧ Overdue c.conn largestAcked lossTime p)
  set : (c'.lossTimes pnSpace).isSome ↔
    (∃ p ∈ c'.conn.outstandings.packets, Examined pnSpace largestAcked p) ∧
      ∃ p ∈ c'.conn.outstandings.packets, Waits c'.conn pnSpace p
  earliest : ∀ time, c'.lossTimes pnSpace = some time → ∃ before p after,
    c'.conn.outstandings.packets = before ++ p :: after ∧ Waits c'.conn pnSpace p ∧
      (∀ q ∈ before, ¬ Waits c'.conn pnSpace q) ∧
      time = 1000 * c.conn.delayUntilLost + p.time
  others : ∀ space, space ≠ pnSpace → c'.lossTimes space = c.lossTimes space

section Loop

variable {h : Handlers σ ε} {q : LossParams} {p : OutstandingPacket}
  {packets : List OutstandingPacket} {k : OutstandingsCounters} {rest : σ}

namespace LossParams

/-- The loop declares the packet lost. -/
def due (q : LossParams) (p : OutstandingPacket) : Bool :=
  isOutstanding q.pnSpace p && decide (p.packetNum < q.largestAcked) &&
    (q.lostByTimeout p || decide (q.largestAcked - p.packetNum > q.reorderingThreshold))

def mark (q : LossParams) (p : OutstandingPacket) : OutstandingPacket :=
  if q.due p then q.markLost p (q.largestAcked - p.packetNum) else p

/-- Packets are compared with the largest acknowledged one only. -/
structure Plain (q : LossParams) : Prop where
  dsr : q.acked.largestDsrAcked = []
  nonDsr : q.acked.largestNonDsrAcked = some q.largestAcked

theorem Plain.reorderDistance (hq : q.Plain) (hp : p.WithoutDsr) :
    (q.reorderDistance p : Except (SendFailure ε) Nat) = .ok (q.largestAcked - p.packetNum) := by
  have hother : (q.nonDsrDistance p : Except (SendFailure ε) Nat) =
      .ok (q.largestAcked - p.packetNum) := by
    unfold nonDsrDistance checkThat
    rw [if_pos hq.dsr, if_pos hq.nonDsr]
    rfl
  unfold LossParams.reorderDistance
  cases hframe : p.frames.head?.bind QuicWriteFrame.asWriteStreamFrame with
  | none => exact hother
  | some frame =>
    have hplain : frame.fromBufMeta = false := by
      rw [← Bool.not_eq_true]
      intro hmeta
      have hdsr := hp.2 frame hframe hmeta
      rw [hp.1] at hdsr
      cases hdsr
    dsimp only
    rw [hplain]
    exact hother

theorem Plain.stays_iff (hq : q.Plain) (hp : p.WithoutDsr) :
    q.stays p = true ↔ ¬ (q.lostByTimeout p = true ∨
      q.largestAcked - p.packetNum > q.reorderingThreshold) := by
  unfold stays
  rw [hq.reorderDistance hp]
  simp

end LossParams

/-- The queue after the loop. -/
theorem lossLoop_eq (hq : q.Plain) (hsorted : SortedPackets packets)
    (hdsr : ∀ p ∈ packets, p.WithoutDsr)
    {r : List OutstandingPacket × OutstandingsCounters × σ}
    (h : lossLoop h q packets k rest = .ok r) : r.1 = packets.map q.mark := by
  induction packets generalizing k rest r with
  | nil =>
    cases h
    rfl
  | cons p packets ih =>
    obtain ⟨hfirst, hsorted⟩ := List.pairwise_cons.mp hsorted
    obtain ⟨hp, hdsr⟩ := List.forall_mem_cons.mp hdsr
    rw [List.map_cons]
    unfold lossLoop at h
    split at h
    · next hge =>
      -- the loop stops, and no packet that follows is due
      cases h
      have hmark : ∀ x ∈ p :: packets, q.mark x = x := by
        intro x hx
        have hle : p.packetNum ≤ x.packetNum := by
          rcases List.mem_cons.mp hx with rfl | hx
          · exact Nat.le_refl _
          · exact hfirst x hx
        have hnot : q.due x = false := by
          unfold LossParams.due
          rw [decide_eq_false (Nat.not_lt.mpr (Nat.le_trans hge hle)), Bool.and_false,
            Bool.false_and]
        unfold LossParams.mark
        rw [hnot, if_neg Bool.false_ne_true]
      rw [← List.map_cons, List.map_congr_left hmark, List.map_id']
    · next hlt =>
      split at h
      · next hother =>
        rw [except_bind_eq_ok] at h
        obtain ⟨r', hr', hr⟩ := h
        cases hr
        have hnot : q.due p = false := by
          unfold LossParams.due isOutstanding
          rcases hother with hspace | hlost
          · simp [hspace]
          · simp [hlost]
        have hmark : q.mark p = p := by
          unfold LossParams.mark
          rw [hnot, if_neg Bool.false_ne_true]
        rw [hmark, ← ih hsorted hdsr hr']
      · next hown =>
        rw [not_or, not_not, Bool.not_eq_true] at hown
        rw [hq.reorderDistance hp] at h
        change (if _ then _ else _) = _ at h
        have hdue : q.due p = true ↔ q.lostByTimeout p = true ∨
            q.largestAcked - p.packetNum > q.reorderingThreshold := by
          unfold LossParams.due isOutstanding
          simp [hown.1, hown.2, Nat.lt_of_not_le hlt]
        split at h
        · next hstays =>
          rw [except_bind_eq_ok] at h
          obtain ⟨r', hr', hr⟩ := h
          cases hr
          have hmark : q.mark p = p := by
            unfold LossParams.mark
            rw [if_neg (mt hdue.mp hstays)]
          rw [hmark, ← ih hsorted hdsr hr']
        · next hlost =>
          rw [not_not] at hlost
          rw [except_bind_eq_ok] at h
          obtain ⟨rest', -, h⟩ := h
          rw [except_bind_eq_ok] at h
          obtain ⟨k', -, h⟩ := h
          rw [except_bind_eq_ok] at h
          obtain ⟨r', hr', hr⟩ := h
          cases hr
          have hmark : q.mark p = q.markLost p (q.largestAcked - p.packetNum) := by
            unfold LossParams.mark
            rw [if_pos (hdue.mpr hlost)]
          rw [hmark, ← ih hsorted hdsr hr']

namespace LossParams

theorem due_iff : q.due p = true ↔ isOutstanding q.pnSpace p = true ∧
    p.packetNum < q.largestAcked ∧ (q.lostByTimeout p = true ∨
      q.largestAcked - p.packetNum > q.reorderingThreshold) := by
  unfold due
  rw [Bool.and_eq_true, Bool.and_eq_true, Bool.or_eq_true, decide_eq_true_iff, decide_eq_true_iff,
    and_assoc]

theorem declaredLost_mark (q : LossParams) (p : OutstandingPacket) :
    (q.mark p).declaredLost = true ↔ p.declaredLost = true ∨ q.due p = true := by
  unfold mark
  split
  · next hdue => simp [markLost, hdue]
  · next hdue => simp [hdue]

theorem unmarked_mark (q : LossParams) (p : OutstandingPacket) :
    (q.mark p).unmarked = p.unmarked := by
  unfold mark
  split
  · rfl
  · rfl

theorem mark_eq_self (h : q.due p = false) : q.mark p = p := by
  unfold mark
  rw [h, if_neg Bool.false_ne_true]

theorem due_eq_false (h : isOutstanding q.pnSpace p = false) : q.due p = false := by
  unfold due
  rw [h, Bool.false_and, Bool.false_and]

/-- The first packets are passed over because they are not outstanding. -/
theorem map_mark_takeWhile (q : LossParams) (packets : List OutstandingPacket) :
    (packets.takeWhile fun p => !isOutstanding q.pnSpace p).map q.mark =
      packets.takeWhile fun p => !isOutstanding q.pnSpace p := by
  have hself : ∀ p ∈ packets.takeWhile (fun p => !isOutstanding q.pnSpace p), q.mark p = p := by
    intro p hp
    have hnot := List.mem_takeWhile_imp hp
    exact mark_eq_self (due_eq_false (by simpa using hnot))
  rw [List.map_congr_left hself, List.map_id']

/-- The timer is needed if a packet that is examined stays. -/
theorem Plain.shouldSetTimer_iff (hq : q.Plain) (hsorted : SortedPackets packets)
    (hdsr : ∀ p ∈ packets, p.WithoutDsr) :
    q.shouldSetTimer packets = true ↔ ∃ p ∈ packets, isOutstanding q.pnSpace p = true ∧
      p.packetNum < q.largestAcked ∧ q.due p = false := by
  induction packets with
  | nil => simp [shouldSetTimer]
  | cons p packets ih =>
    obtain ⟨hfirst, hsorted⟩ := List.pairwise_cons.mp hsorted
    obtain ⟨hp, hdsr⟩ := List.forall_mem_cons.mp hdsr
    unfold shouldSetTimer
    split
    · next hge =>
      constructor
      · intro h
        cases h
      · rintro ⟨x, hx, -, hlt, -⟩
        rcases List.mem_cons.mp hx with rfl | hx
        · omega
        · have hle := hfirst x hx
          omega
    · next hlt =>
      rw [List.exists_mem_cons_iff]
      split
      · next hother =>
        have hnot : ¬ isOutstanding q.pnSpace p = true := by
          rw [isOutstanding_iff]
          rintro ⟨hlost, hspace⟩
          rcases hother with hother | hother
          · exact hother hspace
          · rw [hlost] at hother
            cases hother
        rw [ih hsorted hdsr]
        constructor
        · exact .inr
        · rintro (⟨hout, -, -⟩ | hrest)
          · exact absurd hout hnot
          · exact hrest
      · next hown =>
        rw [not_or, not_not, Bool.not_eq_true] at hown
        have hout : isOutstanding q.pnSpace p = true := isOutstanding_iff.mpr ⟨hown.2, hown.1⟩
        rw [Bool.or_eq_true, ih hsorted hdsr, hq.stays_iff hp]
        unfold due
        simp [hout, Nat.lt_of_not_le hlt]

end LossParams

end Loop

/-! ### Loss detection -/

/-- No stream index is collected from packets without DSR. -/
theorem largestDsrAcked_eq_nil {ackedPackets : List AckPacket}
    (hacked : ∀ p ∈ ackedPackets, p.WithoutDsr) (largestAcked : Nat) :
    (largestAckedOf largestAcked ackedPackets).largestDsrAcked = [] := by
  have hdetails : ∀ (packetNum : Nat) (details : DetailsPerStream) (l : LargestAcked),
      (∀ detail ∈ details, detail.2 = none) → l.largestDsrAcked = [] →
        (details.foldl (LargestAcked.addDetail packetNum) l).largestDsrAcked = [] := by
    intro packetNum details
    induction details with
    | nil => exact fun l _ hl => hl
    | cons detail details ih =>
      intro l hnone hl
      obtain ⟨hdetail, hrest⟩ := List.forall_mem_cons.mp hnone
      obtain ⟨stream, idx⟩ := detail
      cases hdetail
      exact ih _ hrest hl
  have hpackets : ∀ l : LargestAcked, l.largestDsrAcked = [] →
      (ackedPackets.foldl LargestAcked.addPacket l).largestDsrAcked = [] := by
    induction ackedPackets with
    | nil => exact fun l hl => hl
    | cons p ackedPackets ih =>
      intro l hl
      obtain ⟨hp, hacked⟩ := List.forall_mem_cons.mp hacked
      refine ih hacked _ ?_
      have hnone := hdetails p.packetNum p.detailsPerStream l hp hl
      unfold LargestAcked.addPacket
      dsimp only
      split
      · exact hnone
      · exact hnone
  have hnil := hpackets ⟨[], none⟩ rfl
  unfold largestAckedOf
  dsimp only
  rw [if_pos hnil]
  exact hnil

section Detect

variable {h : Handlers σ ε} {c c' : AlarmConn σ} {largestAcked : Option Nat} {lossTime : Nat}
  {pnSpace : PacketNumberSpace} {ackedPackets : List AckPacket}

theorem plain_lossParams (hacked : ∀ p ∈ ackedPackets, p.WithoutDsr) (conn : SendConn σ)
    (largestAcked lossTime : Nat) (pnSpace : PacketNumberSpace) :
    (lossParams conn largestAcked lossTime pnSpace ackedPackets).Plain :=
  ⟨largestDsrAcked_eq_nil hacked largestAcked,
    largestAckedOf_nonDsr largestAcked ackedPackets (largestDsrAcked_eq_nil hacked largestAcked)⟩

/-- The queue after loss detection. -/
theorem packets_detectLossPackets {conn conn' : SendConn σ} {n : Nat}
    (hsorted : SortedPackets conn.outstandings.packets)
    (hdsr : ∀ p ∈ conn.outstandings.packets, p.WithoutDsr)
    (hacked : ∀ p ∈ ackedPackets, p.WithoutDsr)
    (hdetect : detectLossPackets h (some n) lossTime pnSpace ackedPackets conn = .ok conn') :
    conn'.outstandings.packets = conn.outstandings.packets.map
      (lossParams conn n lossTime pnSpace ackedPackets).mark := by
  rw [detectLossPackets_some] at hdetect
  have hq := plain_lossParams hacked conn n lossTime pnSpace
  have hspace : (lossParams conn n lossTime pnSpace ackedPackets).pnSpace = pnSpace := rfl
  generalize lossParams conn n lossTime pnSpace ackedPackets = q at hdetect hq hspace ⊢
  unfold processOutstandingsForLoss at hdetect
  dsimp only at hdetect
  rw [except_bind_eq_ok] at hdetect
  obtain ⟨r, hloop, hresult⟩ := hdetect
  cases hresult
  have hdrop := List.dropWhile_sublist (fun p => !isOutstanding q.pnSpace p)
    (l := conn.outstandings.packets)
  have hrest := lossLoop_eq hq (hsorted.sublist hdrop) (fun p hp => hdsr p (hdrop.subset hp)) hloop
  dsimp only
  rw [hrest, ← q.map_mark_takeWhile, ← List.map_append, List.takeWhile_append_dropWhile]

theorem examined_some_iff {n : Nat} {p : OutstandingPacket} :
    Examined pnSpace (some n) p ↔ isOutstanding pnSpace p = true ∧ p.packetNum < n := by
  unfold Examined
  simp

/-- The condition of the loop, said about the connection. -/
theorem due_lossParams_iff (ackedPackets : List AckPacket) {conn : SendConn σ} {n : Nat}
    {p : OutstandingPacket} :
    (lossParams conn n lossTime pnSpace ackedPackets).due p = true ↔
      Examined pnSpace (some n) p ∧ Overdue conn (some n) lossTime p := by
  rw [examined_some_iff, LossParams.due_iff, and_assoc]
  unfold Overdue LossParams.lostByTimeout
  rw [decide_eq_true_iff]
  simp [lossParams, SendConn.delayUntilLost]

/-- What is left of the packets that are examined. -/
theorem exists_examined_iff (q : LossParams) (packets : List OutstandingPacket) :
    (∃ p ∈ packets.dropWhile (fun p => !isOutstanding q.pnSpace p),
        isOutstanding q.pnSpace p = true ∧ p.packetNum < q.largestAcked ∧ q.due p = false) ↔
      ∃ p ∈ packets.map q.mark, Examined q.pnSpace (some q.largestAcked) p := by
  constructor
  · rintro ⟨p, hp, hout, hlt, hdue⟩
    refine ⟨p, ?_, examined_some_iff.mpr ⟨hout, hlt⟩⟩
    rw [List.mem_map]
    exact ⟨p, (List.dropWhile_sublist _).subset hp, LossParams.mark_eq_self hdue⟩
  · rintro ⟨p', hp', hexamined⟩
    obtain ⟨p, hp, rfl⟩ := List.mem_map.mp hp'
    obtain ⟨hout, hlt⟩ := examined_some_iff.mp hexamined
    have hdue : q.due p = false := by
      rw [← Bool.not_eq_true]
      intro hdue
      have hlost := (q.declaredLost_mark p).mpr (.inr hdue)
      rw [(isOutstanding_iff.mp hout).1] at hlost
      cases hlost
    rw [LossParams.mark_eq_self hdue] at hout hlt
    refine ⟨p, ?_, hout, hlt, hdue⟩
    rw [← List.takeWhile_append_dropWhile (p := fun p => !isOutstanding q.pnSpace p)
      (l := packets)] at hp
    rcases List.mem_append.mp hp with hp | hp
    · have hnot := List.mem_takeWhile_imp hp
      rw [hout] at hnot
      cases hnot
    · exact hp

theorem spec_earliestOutstanding {o : OutstandingsInfo} {p : OutstandingPacket}
    (hp : AlarmConn.earliestOutstanding o pnSpace = some p) : ∃ before after,
      o.packets = before ++ p :: after ∧ isOutstanding pnSpace p = true ∧
        o.processed p = false ∧
        ∀ x ∈ before, ¬ (isOutstanding pnSpace x = true ∧ o.processed x = false) := by
  obtain ⟨hwaits, before, after, hpackets, hbefore⟩ := List.find?_eq_some_iff_append.mp hp
  rw [Bool.and_eq_true, Bool.not_eq_true'] at hwaits
  refine ⟨before, after, hpackets, hwaits.1, hwaits.2, ?_⟩
  rintro x hx ⟨hout, hprocessed⟩
  have hnot := hbefore x hx
  rw [hout, hprocessed] at hnot
  cases hnot

/-- A loss time is set for the first packet that waits. -/
theorem lossTimes_spec {delay : Nat} {o : OutstandingsInfo} {shouldSetTimer : Bool} :
    (((if shouldSetTimer then
        (AlarmConn.earliestOutstanding o pnSpace).map (1000 * delay + ·.time) else none) :
        Option Nat).isSome ↔ shouldSetTimer = true ∧
          ∃ p ∈ o.packets, isOutstanding pnSpace p = true ∧ o.processed p = false) := by
  have hsome : (AlarmConn.earliestOutstanding o pnSpace).isSome ↔
      ∃ p ∈ o.packets, isOutstanding pnSpace p = true ∧ o.processed p = false := by
    unfold AlarmConn.earliestOutstanding
    rw [List.find?_isSome]
    simp
  cases shouldSetTimer with
  | false => simp
  | true =>
    rw [if_pos rfl, Option.isSome_map, hsome]
    simp

/-- The state after loss detection. -/
theorem alarm_detectLossPackets (hdetect :
      c.detectLossPackets h largestAcked lossTime pnSpace ackedPackets = .ok c') :
    ∃ conn', MasqueQuic.detectLossPackets h largestAcked lossTime pnSpace ackedPackets c.conn =
        .ok conn' ∧ c'.conn = conn' ∧
      c'.lossTimes = Function.update c.lossTimes pnSpace
        (if (largestAcked.any fun largestAcked =>
            (lossParams c.conn largestAcked lossTime pnSpace ackedPackets).shouldSetTimer
              (c.conn.outstandings.packets.dropWhile fun p => !isOutstanding pnSpace p)) then
          (AlarmConn.earliestOutstanding conn'.outstandings pnSpace).map
            (1000 * c.conn.delayUntilLost + ·.time)
        else none) := by
  unfold AlarmConn.detectLossPackets at hdetect
  rw [except_bind_eq_ok] at hdetect
  obtain ⟨conn', hconn, hresult⟩ := hdetect
  cases hresult
  refine ⟨conn', ?_, rfl, rfl⟩
  unfold liftSend at hconn
  split at hconn
  · next hok =>
    cases hconn
    exact hok
  · cases hconn

theorem lossExact_of_none (hdetect :
      c.detectLossPackets h none lossTime pnSpace ackedPackets = .ok c') :
    LossExact c c' none lossTime pnSpace := by
  obtain ⟨conn', hconn, hc', hlossTimes⟩ := alarm_detectLossPackets hdetect
  cases hconn
  have hnone : c'.lossTimes pnSpace = none := by
    rw [hlossTimes, Function.update_self]
    rfl
  constructor
  · rw [hc']
  · intro i p p' hp hp'
    rw [hc', hp] at hp'
    cases hp'
    unfold Examined
    simp
  · rw [hnone]
    unfold Examined
    simp
  · intro time htime
    rw [hnone] at htime
    cases htime
  · intro space hspace
    rw [hlossTimes, Function.update_of_ne hspace]

theorem lossExact_of_some {n : Nat} (hsorted : SortedPackets c.conn.outstandings.packets)
    (hdsr : ∀ p ∈ c.conn.outstandings.packets, p.WithoutDsr)
    (hacked : ∀ p ∈ ackedPackets, p.WithoutDsr)
    (hdetect : c.detectLossPackets h (some n) lossTime pnSpace ackedPackets = .ok c') :
    LossExact c c' (some n) lossTime pnSpace := by
  obtain ⟨conn', hconn, hc', hlossTimes⟩ := alarm_detectLossPackets hdetect
  have hpackets := packets_detectLossPackets hsorted hdsr hacked hconn
  rw [← hc'] at hpackets hlossTimes
  have hlossTime := congrFun hlossTimes pnSpace
  rw [Function.update_self, Option.any_some] at hlossTime
  have hdrop := List.dropWhile_sublist (fun p => !isOutstanding pnSpace p)
    (l := c.conn.outstandings.packets)
  have htimer := (plain_lossParams hacked c.conn n lossTime pnSpace).shouldSetTimer_iff
    (hsorted.sublist hdrop) fun p hp => hdsr p (hdrop.subset hp)
  constructor
  · rw [hpackets, List.map_map]
    exact List.map_congr_left fun p _ => LossParams.unmarked_mark _ p
  · intro i p p' hp hp'
    rw [hpackets, List.getElem?_map, hp, Option.map_some, Option.some_inj] at hp'
    rw [← hp', LossParams.declaredLost_mark, ← due_lossParams_iff ackedPackets]
    constructor
    · rintro ⟨hlost | hdue, hlive⟩
      · rw [hlive] at hlost
        cases hlost
      · exact hdue
    · intro hdue
      exact ⟨.inr hdue, (isOutstanding_iff.mp (LossParams.due_iff.mp hdue).1).1⟩
  · rw [hlossTime, lossTimes_spec, htimer, hpackets]
    exact and_congr_left fun _ => exists_examined_iff
      (lossParams c.conn n lossTime pnSpace ackedPackets) c.conn.outstandings.packets
  · intro time htime
    rw [hlossTime] at htime
    split at htime
    · obtain ⟨p, hp, rfl⟩ := Option.map_eq_some_iff.mp htime
      obtain ⟨before, after, hsplit, hout, hprocessed, hbefore⟩ := spec_earliestOutstanding hp
      exact ⟨before, p, after, hsplit, ⟨hout, hprocessed⟩, hbefore, rfl⟩
    · cases htime
  · intro space hspace
    rw [hlossTimes, Function.update_of_ne hspace]

end Detect

/-- Loss detection is exact in every sorted queue without DSR packets; where the counters agree
with the queue, nothing stops it but an exception of the visitor. -/
theorem detectLossPackets_exact (h : Handlers σ ε) (c : AlarmConn σ) (largestAcked : Option Nat)
    (lossTime : Nat) (pnSpace : PacketNumberSpace) (ackedPackets : List AckPacket)
    (hsorted : SortedPackets c.conn.outstandings.packets)
    (hdsr : ∀ p ∈ c.conn.outstandings.packets, p.WithoutDsr)
    (hacked : ∀ p ∈ ackedPackets, p.WithoutDsr) :
    (∀ c', c.detectLossPackets h largestAcked lossTime pnSpace ackedPackets = .ok c' →
      LossExact c c' largestAcked lossTime pnSpace) ∧
    (QueueInv c.conn → ∀ f, c.detectLossPackets h largestAcked lossTime pnSpace ackedPackets =
      .error f → ∃ e, f = .send (.thrown e)) := by
  constructor
  · intro c' hdetect
    cases largestAcked with
    | none => exact lossExact_of_none hdetect
    | some n => exact lossExact_of_some hsorted hdsr hacked hdetect
  · intro hinv f hdetect
    have hends : Ends (Allowed (fun _ => False) fun _ => True)
        (detectLossPackets h largestAcked lossTime pnSpace ackedPackets c.conn) _ :=
      (hinv.anyHandlers h).detectLossPackets largestAcked lossTime ackedPackets
        (.inr fun p hp => (hdsr p hp).2)
    unfold AlarmConn.detectLossPackets liftSend at hdetect
    split at hdetect
    · cases hdetect
    · next g hfailed =>
      cases hdetect
      have hallowed := hends.of_error hfailed
      cases g with
      | check which => exact False.elim hallowed
      | thrown e => exact ⟨e, rfl⟩

/-- The packets 0 and 4 are outstanding. -/
def twoOutstanding : AlarmConn Unit :=
  let start : AlarmConn Unit := .start ⟨0, none⟩ ⟨0, none⟩ ⟨6, none⟩ ⟨0, 0, 100, 100, 0, 3⟩
    ⟨100000, 9, 8, false, false, false⟩ ()
  { start with
    conn.outstandings := ⟨⟨∅, fun _ => 2, fun _ => 0, 0, 0⟩,
      [(⟨.keyPhaseZero, [.maxData 0]⟩ : RegularQuicWritePacket).outstanding 0 0 false none,
        (⟨.keyPhaseZero, [.maxData 1]⟩ : RegularQuicWritePacket).outstanding 4 1000 false none]⟩ }

/-- Packet 5 has been acknowledged: packet 0 is lost, and packet 4 may be. -/
theorem detectLossPackets_two :
    ∃ c', twoOutstanding.detectLossPackets idle (some 5) 2000 .appData [] = .ok c' ∧
      c'.conn.outstandings.packets.map (·.declaredLost) = [true, false] ∧
      c'.lossTimes .appData = some 113000 ∧
      LossExact twoOutstanding c' (some 5) 2000 .appData := by
  have hdetect : ∃ c', twoOutstanding.detectLossPackets idle (some 5) 2000 .appData [] = .ok c' ∧
      c'.conn.outstandings.packets.map (·.declaredLost) = [true, false] ∧
      c'.lossTimes .appData = some 113000 := ⟨_, rfl, rfl, rfl⟩
  have hsorted : SortedPackets twoOutstanding.conn.outstandings.packets := by
    unfold SortedPackets
    decide
  have hdsr : ∀ p ∈ twoOutstanding.conn.outstandings.packets, p.WithoutDsr := by
    intro p hp
    rcases List.mem_pair.mp hp with rfl | rfl
    · exact ⟨rfl, by rintro frame ⟨⟩⟩
    · exact ⟨rfl, by rintro frame ⟨⟩⟩
  obtain ⟨c', hc', hlost, htime⟩ := hdetect
  exact ⟨c', hc', hlost, htime, (detectLossPackets_exact idle twoOutstanding (some 5) 2000 .appData
    [] hsorted hdsr (by simp)).1 c' hc'⟩

end MasqueQuic
