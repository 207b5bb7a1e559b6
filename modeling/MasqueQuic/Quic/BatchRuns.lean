/-
What reaches the sockets.

`Preserved` says that both sockets have been handed the packets that were written, in order for each
destination, up to those that still wait, and that no batch is too large. Every step that meets `StepOk`
keeps it and runs into no assertion, so it holds in every state of a run whose steps all do
(`datagrams_preserved`). What `StepOk` excludes breaks it: a second packet in a GSO batch of maximum one,
a second socket for the in-place writer, a second address for chains, and batches in which empty packets
are lost.
-/

import MasqueQuic.Lib.Run
import MasqueQuic.Quic.BatchDelivery

namespace MasqueQuic

variable {Address : Type}

section

variable [DecidableEq Address]

/-- The batches and what waits are what was written, as far as it goes to one destination. -/
def Delivered (dest : Address → Address) (batches : List (List (Datagram Address)))
    (pending written : List (Datagram Address)) : Prop :=
  ∀ addr, (batches.flatten ++ pending.map fun q => (dest q.1, q.2)).filter (·.1 = addr) =
    (written.map fun q => (dest q.1, q.2)).filter (·.1 = addr)

theorem Delivered.hand {dest : Address → Address} {batches : List (List (Datagram Address))}
    {pending written batch : List (Datagram Address)} (h : Delivered dest batches pending written)
    (hhands : Hands dest pending batch) : Delivered dest (batches ++ [batch]) [] written := by
  intro addr
  rw [← h addr, List.flatten_append, List.flatten_singleton, List.map_nil, List.append_nil,
    List.filter_append, List.filter_append, hhands.order addr]

theorem Delivered.add {dest : Address → Address} {batches : List (List (Datagram Address))}
    {pending written : List (Datagram Address)} (h : Delivered dest batches pending written)
    (q : Datagram Address) : Delivered dest batches (pending ++ [q]) (written ++ [q]) := by
  intro addr
  rw [List.map_append, List.map_append, ← List.append_assoc, List.filter_append, h addr,
    List.filter_append]

end

namespace IOBufQuicBatch

variable {b b' : IOBufQuicBatch Address} {maxBatch : Nat} {extra : Bytes}

/-- The packets reach the sockets as they were written, and no batch exceeds the maximum. -/
structure Preserved [DecidableEq Address] (maxBatch : Nat) (b : IOBufQuicBatch Address) : Prop where
  first : b.writesToFirst = true → Delivered id b.first b.pending b.written
  second : ∀ address, b.secondAddress = some address →
    Delivered (fun _ => address) b.second b.pending b.written
  batches : ∀ batch ∈ b.first ++ b.second, batch.length ≤ maxBatch
  waiting : b.pending.length ≤ maxBatch

/-- The in-place writer can write once. -/
def OneSocket (b : IOBufQuicBatch Address) : Prop :=
  b.batchWriter.kind = .gsoInplace → b.writesToFirst = false ∨ b.secondAddress = none

/-- The chains are sent to the address that their packets were written for. -/
def SameAddress (b : IOBufQuicBatch Address) : Prop :=
  b.batchWriter.kind = .sendmmsgGSO →
    ∀ address, b.secondAddress = some address → b.peerAddress = address

/-- What is needed for a step to pass the packets on. -/
def StepOk (b : IOBufQuicBatch Address) : BatchEvent Address → Prop
  | .write buf =>
      b.SameAddress ∧
      if (b.batchWriter.needsFlush buf.length).2 then b.OneSocket
      else b.batchWriter.CanTake b.pending buf.length b.peerAddress ∧
        (b.batchWriter.Completes b.pending buf.length = true →
          b.OneSocket ∧ b.batchWriter.Visible (b.pending ++ [(b.peerAddress, buf)]))
  | .flush flushType =>
      (b.threadLocal && flushType == .allowThreadLocalDelay) = true ∨ b.pending = [] ∨
        b.OneSocket ∧ b.batchWriter.Visible b.pending
  | .attach _ => True

/-- The addresses of the packets that wait. -/
structure Addressed (b : IOBufQuicBatch Address) : Prop where
  own : b.batchWriter.kind ≠ .sendmmsgGSO → ∀ q ∈ b.pending, q.1 = b.peerAddress
  second : b.batchWriter.kind = .sendmmsgGSO →
    ∀ address, b.secondAddress = some address → ∀ q ∈ b.pending, q.1 = address

/-- The packets wait, and `extra` lies behind them in the buffer of the in-place writer. -/
structure Holds [DecidableEq Address] (maxBatch : Nat) (extra : Bytes) (b : IOBufQuicBatch Address) :
    Prop where
  ready : b.batchWriter.Ready b.pending extra
  one : 1 ≤ b.batchWriter.maxBatch
  max : b.batchWriter.maxBatch ≤ maxBatch
  addressed : b.Addressed
  preserved : b.Preserved maxBatch

/-- What holds between the calls. -/
structure Inv [DecidableEq Address] (maxBatch : Nat) (b : IOBufQuicBatch Address) : Prop where
  holds : b.Holds maxBatch []
  clean : b.batchWriter.Clean b.pending

/-! ### Flushing -/

theorem Addressed.nil (h : b.pending = []) : b.Addressed where
  own _ q hq := by
    rw [h] at hq
    cases hq
  second _ _ _ q hq := by
    rw [h] at hq
    cases hq

theorem Addressed.aims_first (h : b.Addressed) :
    b.batchWriter.Aims b.peerAddress id b.pending := by
  have hown := h.own
  unfold BatchWriter.Aims
  cases hw : b.batchWriter with
  | sendmmsgGSO w => exact fun q _ => rfl
  | _ =>
    rw [hw] at hown
    exact hown (fun h => by cases h)

theorem Addressed.aims_second (h : b.Addressed) {address : Address}
    (hsecond : b.secondAddress = some address) :
    b.batchWriter.Aims address (fun _ => address) b.pending := by
  have hall := h.second
  unfold BatchWriter.Aims
  cases hw : b.batchWriter with
  | sendmmsgGSO w =>
    rw [hw] at hall
    exact fun q hq => (hall rfl address hsecond q hq).symm
  | _ => exact fun _ _ => rfl

/-- One of the sockets is active. -/
theorem active (b : IOBufQuicBatch Address) :
    b.writesToFirst = true ∨ ∃ address, b.secondAddress = some address := by
  unfold writesToFirst secondAddress
  cases b.happyEyeballsState with
  | none => exact .inl rfl
  | some state =>
    refine state.active.imp_right fun hsecond => ⟨state.secondPeerAddress, ?_⟩
    dsimp only
    rw [if_pos hsecond]

/-- Writers other than the in-place one are not changed by a write. -/
theorem wrote_of_both (hone : b.OneSocket) (hfirst : b.writesToFirst = true) {address : Address}
    (hsecond : b.secondAddress = some address) : b.batchWriter.wrote extra = b.batchWriter := by
  unfold OneSocket at hone
  cases hw : b.batchWriter with
  | gsoInplace w =>
    rw [hw, hfirst, hsecond] at hone
    cases hone rfl with
    | inl h => cases h
    | inr h => cases h
  | _ => rfl

theorem writeSecond_of_none (h : b.secondAddress = none) : b.writeSecond = .ok b := by
  unfold writeSecond
  rw [h]

theorem writeSecond_of_some {address : Address} (h : b.secondAddress = some address)
    {batchWriter : BatchWriter Address} {batch : List (Datagram Address)}
    (hwrite : b.batchWriter.write address = .ok (batchWriter, batch)) :
    b.writeSecond = .ok { b with batchWriter, second := b.second ++ [batch] } := by
  unfold writeSecond
  rw [h]
  dsimp only
  rw [hwrite]
  rfl

/-- What a flush of waiting packets does. -/
theorem flushInternal_ok [DecidableEq Address] (hready : b.batchWriter.Ready b.pending extra)
    (hrest : b.batchWriter.Rest extra) (haddressed : b.Addressed) (hne : b.pending ≠ [])
    (hone : b.OneSocket) (hvisible : b.batchWriter.Visible b.pending) :
    ∃ first second, b.flushInternal = .ok { b with
        batchWriter := b.batchWriter.wrote extra
        first := b.first ++ first
        second := b.second ++ second } ∧
      (b.writesToFirst = true → ∃ batch, first = [batch] ∧ Hands id b.pending batch) ∧
      (∀ address, b.secondAddress = some address →
        ∃ batch, second = [batch] ∧ Hands (fun _ => address) b.pending batch) ∧
      ∀ batch ∈ first ++ second, batch.length = b.pending.length := by
  have hempty := hready.empty_eq hne hvisible
  unfold flushInternal
  rw [hempty, if_neg (by decide)]
  by_cases hfirst : b.writesToFirst = true
  · obtain ⟨batch, hwrite, hhands⟩ := hready.write hne hrest haddressed.aims_first
    have hwriteFirst : b.writeFirst = .ok { b with
        batchWriter := b.batchWriter.wrote extra
        first := b.first ++ [batch] } := by
      unfold writeFirst
      rw [if_pos hfirst, hwrite]
      rfl
    rw [hwriteFirst, except_ok_bind]
    cases hsecond : b.secondAddress with
    | none =>
      refine ⟨[batch], [], ?_, fun _ => ⟨batch, rfl, hhands⟩, fun _ h => ?_, ?_⟩
      · rw [writeSecond_of_none, List.append_nil]
        exact hsecond
      · cases h
      · intro c hc
        rw [List.mem_singleton.mp hc, hhands.length]
    | some address =>
      have hwrote := @wrote_of_both _ b extra hone hfirst _ hsecond
      obtain ⟨batch', hwrite', hhands'⟩ := hready.write hne hrest (haddressed.aims_second hsecond)
      refine ⟨[batch], [batch'], ?_, fun _ => ⟨batch, rfl, hhands⟩, fun a ha => ?_, ?_⟩
      · rw [hwrote] at hwrite' ⊢
        exact writeSecond_of_some (b := { b with first := b.first ++ [batch] }) hsecond hwrite'
      · cases ha
        exact ⟨batch', rfl, hhands'⟩
      · intro c hc
        cases List.mem_cons.mp hc with
        | inl heq => rw [heq, hhands.length]
        | inr hc => rw [List.mem_singleton.mp hc, hhands'.length]
  · obtain ⟨address, hsecond⟩ := b.active.resolve_left hfirst
    obtain ⟨batch, hwrite, hhands⟩ := hready.write hne hrest (haddressed.aims_second hsecond)
    have hwriteFirst : b.writeFirst = .ok b := by
      unfold writeFirst
      rw [if_neg hfirst]
      rfl
    rw [hwriteFirst, except_ok_bind]
    refine ⟨[], [batch], ?_, fun h => absurd h hfirst, fun a ha => ?_, ?_⟩
    · rw [writeSecond_of_some hsecond hwrite, List.append_nil]
    · rw [hsecond] at ha
      cases ha
      exact ⟨batch, rfl, hhands⟩
    · intro c hc
      rw [List.mem_singleton.mp hc, hhands.length]

/-- A flush hands everything over. -/
theorem Holds.flush [DecidableEq Address] (h : b.Holds maxBatch extra)
    (hrest : b.batchWriter.Rest extra)
    (hok : b.pending = [] ∨ b.OneSocket ∧ b.batchWriter.Visible b.pending) :
    ∃ b', b.flush .always = .ok b' ∧ b'.Holds maxBatch extra ∧ b'.pending = [] ∧
      b'.batchWriter = (b.batchWriter.wrote extra).reset := by
  have hready := h.ready
  have hpreserved := h.preserved
  have hnew := (BatchWriter.ready_reset b.batchWriter hready h.one).1
  have hone : 1 ≤ (b.batchWriter.wrote extra).reset.maxBatch := by
    rw [BatchWriter.maxBatch_reset, BatchWriter.maxBatch_wrote]
    exact h.one
  have hmax : (b.batchWriter.wrote extra).reset.maxBatch ≤ maxBatch := by
    rw [BatchWriter.maxBatch_reset, BatchWriter.maxBatch_wrote]
    exact h.max
  unfold IOBufQuicBatch.flush
  rw [show (b.threadLocal && FlushType.always == .allowThreadLocalDelay) = false by simp,
    if_neg (by decide)]
  by_cases hnil : b.pending = []
  · have hempty : b.batchWriter.empty = true := by
      rw [hnil] at hready
      exact hready.empty_nil
    have hwrote : (b.batchWriter.wrote extra).reset = b.batchWriter.reset := by
      rw [hnil] at hready
      unfold BatchWriter.wrote
      split
      · next w hw =>
          rw [hw] at hready
          have hbuf : w.buf = extra := hready.buf
          rw [hw, ← hbuf]
          rfl
      · rfl
    unfold flushInternal
    rw [if_pos hempty]
    rw [hwrote] at hnew hone hmax
    refine ⟨_, rfl, ⟨hnew, hone, hmax, .nil rfl, ?_⟩, rfl, hwrote.symm⟩
    have hfirst := hpreserved.first
    have hsecond := hpreserved.second
    rw [hnil] at hfirst hsecond
    exact ⟨hfirst, hsecond, hpreserved.batches, Nat.zero_le _⟩
  · obtain ⟨hone', hvisible⟩ := hok.resolve_left hnil
    obtain ⟨first, second, hinternal, hfirst, hsecond, hlengths⟩ :=
      flushInternal_ok hready hrest h.addressed hnil hone' hvisible
    rw [hinternal]
    refine ⟨_, rfl, ⟨hnew, hone, hmax, .nil rfl, ?_, ?_, ?_, Nat.zero_le _⟩, rfl, rfl⟩
    · intro hactive
      obtain ⟨batch, rfl, hhands⟩ := hfirst hactive
      exact (hpreserved.first hactive).hand hhands
    · intro address hactive
      obtain ⟨batch, rfl, hhands⟩ := hsecond address hactive
      exact (hpreserved.second address hactive).hand hhands
    · intro batch hbatch
      have hmem : batch ∈ b.first ++ b.second ∨ batch ∈ first ++ second := by
        simp only [List.mem_append] at hbatch ⊢
        rcases hbatch with (h | h) | h | h
        · exact .inl (.inl h)
        · exact .inr (.inl h)
        · exact .inl (.inr h)
        · exact .inr (.inr h)
      cases hmem with
      | inl h => exact hpreserved.batches batch h
      | inr h => exact (hlengths batch h).le.trans hpreserved.waiting

/-! ### Steps -/

theorem flush_of_not_delayed {flushType : FlushType}
    (h : ¬ (b.threadLocal && flushType == .allowThreadLocalDelay) = true) :
    b.flush flushType = b.flush .always := by
  have halways : ¬ (b.threadLocal && FlushType.always == .allowThreadLocalDelay) = true := by simp
  unfold IOBufQuicBatch.flush
  rw [if_neg h, if_neg halways]

section

variable [DecidableEq Address]

/-- A flush leaves a clean writer when nothing lies behind the packets. -/
theorem Holds.always (h : b.Holds maxBatch [])
    (hok : b.pending = [] ∨ b.OneSocket ∧ b.batchWriter.Visible b.pending) :
    ∃ b', b.flush .always = .ok b' ∧ b'.Inv maxBatch := by
  have hrest : b.batchWriter.Rest [] := by
    unfold BatchWriter.Rest
    split
    · exact .inl (Nat.zero_le _)
    · trivial
  obtain ⟨b', hflush, hholds, hpending, hwriter⟩ := h.flush hrest hok
  refine ⟨b', hflush, hholds, ?_⟩
  rw [hpending, hwriter]
  exact (BatchWriter.ready_reset b.batchWriter h.ready h.one).2

theorem Inv.flush (h : b.Inv maxBatch) {flushType : FlushType} (hok : b.StepOk (.flush flushType)) :
    ∃ b', b.flush flushType = .ok b' ∧ b'.Inv maxBatch := by
  change (b.threadLocal && flushType == .allowThreadLocalDelay) = true ∨ _ at hok
  by_cases hdelay : (b.threadLocal && flushType == .allowThreadLocalDelay) = true
  · refine ⟨b, ?_, h⟩
    unfold IOBufQuicBatch.flush
    rw [if_pos hdelay]
    rfl
  · rw [flush_of_not_delayed hdelay]
    exact h.holds.always (hok.resolve_left hdelay)

/-- A packet is added to the writer that has room for it. -/
theorem Holds.add {buf : Bytes} (h : b.Holds maxBatch buf) (hclean : b.batchWriter.Clean b.pending)
    (hsame : b.SameAddress) (hneeds : (b.batchWriter.needsFlush buf.length).2 = false)
    (htake : b.batchWriter.CanTake b.pending buf.length b.peerAddress)
    (hfull : b.batchWriter.Completes b.pending buf.length = true →
      b.OneSocket ∧ b.batchWriter.Visible (b.pending ++ [(b.peerAddress, buf)])) :
    ∃ b', b.add buf = .ok b' ∧ b'.Inv maxBatch := by
  obtain ⟨w, happend, htook⟩ :=
    BatchWriter.Ready.append (q := (b.peerAddress, buf)) h.ready hclean h.one hneeds htake
  have hmem : ∀ q ∈ b.pending ++ [(b.peerAddress, buf)], q ∈ b.pending ∨ q.1 = b.peerAddress := by
    intro q hq
    refine (List.mem_append.mp hq).imp_right fun hq => ?_
    rw [List.mem_singleton.mp hq]
  have hholds : Holds maxBatch [] { b with
      batchWriter := w
      written := b.written ++ [(b.peerAddress, buf)]
      pending := b.pending ++ [(b.peerAddress, buf)] } := by
    refine ⟨htook.ready, ?_, ?_, ⟨fun hkind q hq => ?_, fun hkind address haddress q hq => ?_⟩, ?_⟩
    · rw [htook.maxBatch]
      exact h.one
    · rw [htook.maxBatch]
      exact h.max
    · rw [htook.kind] at hkind
      exact (hmem q hq).elim (h.addressed.own hkind q) id
    · rw [htook.kind] at hkind
      cases hmem q hq with
      | inl hq => exact h.addressed.second hkind address haddress q hq
      | inr heq => rw [heq, hsame hkind address haddress]
    · refine ⟨fun hactive => ?_, fun address hactive => ?_, h.preserved.batches, ?_⟩
      · exact (h.preserved.first hactive).add _
      · exact (h.preserved.second address hactive).add _
      · exact htook.length.trans h.max
  unfold IOBufQuicBatch.add
  rw [happend, except_ok_bind]
  dsimp only
  by_cases hcomplete : b.batchWriter.Completes b.pending buf.length = true
  · rw [if_pos hcomplete]
    obtain ⟨hone, hvisible⟩ := hfull hcomplete
    refine hholds.always (.inr ⟨fun hkind => hone ?_, fun hkind => hvisible ?_⟩)
    · rw [← htook.kind]
      exact hkind
    · rw [← htook.kind]
      exact hkind
  · rw [if_neg hcomplete]
    refine ⟨_, rfl, hholds, htook.clean ?_⟩
    exact Bool.eq_false_of_not_eq_true hcomplete

theorem Inv.write (h : b.Inv maxBatch) {buf : Bytes} (hok : b.StepOk (.write buf)) :
    ∃ b', b.write buf = .ok b' ∧ b'.Inv maxBatch := by
  obtain ⟨hsame, hok⟩ := hok
  have hholds : Holds maxBatch buf { b with
      batchWriter := ((b.batchWriter.build buf).needsFlush buf.length).1
      packetsSent := b.packetsSent + 1
      bytesSent := b.bytesSent + buf.length } := by
    have hpreserved := h.holds.preserved
    refine ⟨(h.holds.ready.build buf).needsFlush _, ?_, ?_, ⟨fun hkind => ?_, fun hkind => ?_⟩,
      hpreserved.first, hpreserved.second, hpreserved.batches, hpreserved.waiting⟩
    · rw [BatchWriter.maxBatch_needsFlush, BatchWriter.maxBatch_build]
      exact h.holds.one
    · rw [BatchWriter.maxBatch_needsFlush, BatchWriter.maxBatch_build]
      exact h.holds.max
    · rw [BatchWriter.kind_needsFlush, BatchWriter.kind_build] at hkind
      exact h.holds.addressed.own hkind
    · rw [BatchWriter.kind_needsFlush, BatchWriter.kind_build] at hkind
      exact h.holds.addressed.second hkind
  unfold IOBufQuicBatch.write
  dsimp only
  by_cases hneeds : ((b.batchWriter.build buf).needsFlush buf.length).2 = true
  · rw [if_pos hneeds]
    have hkind := BatchWriter.needsFlush_kind hneeds
    have hold : (b.batchWriter.needsFlush buf.length).2 = true := by
      rw [← BatchWriter.needsFlush_build b.batchWriter buf]
      exact hneeds
    rw [if_pos hold] at hok
    rw [BatchWriter.kind_build] at hkind
    have hone : ((b.batchWriter.build buf).needsFlush buf.length).1.kind = .gsoInplace →
        b.writesToFirst = false ∨ b.secondAddress = none := by
      rw [BatchWriter.kind_needsFlush, BatchWriter.kind_build]
      exact hok
    have hvisible : ((b.batchWriter.build buf).needsFlush buf.length).1.Visible b.pending := by
      intro hother
      rw [BatchWriter.kind_needsFlush, BatchWriter.kind_build] at hother
      cases hkind with
      | inl hgso =>
        rw [hgso] at hother
        cases hother <;> contradiction
      | inr hgso =>
        rw [hgso] at hother
        cases hother <;> contradiction
    obtain ⟨b', hflush, hholds', hpending, hwriter⟩ := hholds.flush
      (BatchWriter.rest_of_needsFlush hneeds rfl) (.inr ⟨hone, hvisible⟩)
    have hkind' : b'.batchWriter.kind = .gso ∨ b'.batchWriter.kind = .gsoInplace := by
      rw [hwriter, BatchWriter.kind_reset, BatchWriter.kind_wrote, BatchWriter.kind_needsFlush,
        BatchWriter.kind_build]
      exact hkind
    rw [hflush, except_ok_bind]
    refine hholds'.add ?_ ?_ ?_ ?_ ?_
    · rw [hpending, hwriter]
      exact (BatchWriter.ready_reset _ hholds.ready hholds.one).2
    · intro hother
      rw [hother] at hkind'
      cases hkind' <;> contradiction
    · rw [hwriter]
      exact BatchWriter.needsFlush_reset _ _
    · rw [hpending, hwriter]
      exact BatchWriter.canTake_reset _ _ _
    · rw [hpending, BatchWriter.completes_nil hkind']
      intro hfalse
      cases hfalse
  · rw [if_neg hneeds]
    have hfalse := Bool.eq_false_of_not_eq_true hneeds
    have hold : ¬ (b.batchWriter.needsFlush buf.length).2 = true := by
      rw [← BatchWriter.needsFlush_build b.batchWriter buf]
      exact hneeds
    rw [if_neg hold] at hok
    obtain ⟨htake, hfull⟩ := hok
    rw [BatchWriter.needsFlush_fst_of_false hfalse] at hholds ⊢
    refine hholds.add (h.clean.build buf) ?_ hfalse (htake.build buf) ?_
    · intro hkind
      rw [BatchWriter.kind_build] at hkind
      exact hsame hkind
    · intro hcomplete
      rw [BatchWriter.completes_build] at hcomplete
      obtain ⟨hone, hvisible⟩ := hfull hcomplete
      refine ⟨fun hkind => hone ?_, fun hkind => hvisible ?_⟩
      · rw [← BatchWriter.kind_build b.batchWriter buf]
        exact hkind
      · rw [← BatchWriter.kind_build b.batchWriter buf]
        exact hkind

/-- Another connection may use the writer only where each packet keeps its address. -/
theorem Inv.attach (h : b.Inv maxBatch) (peerAddress : Address) :
    (b.attach peerAddress).Inv maxBatch := by
  unfold IOBufQuicBatch.attach
  split
  · next hshared =>
      have hkind : b.batchWriter.kind = .sendmmsgGSO := by
        rw [Bool.and_eq_true, beq_iff_eq] at hshared
        exact hshared.2
      have hpreserved := h.holds.preserved
      refine ⟨⟨h.holds.ready, h.holds.one, h.holds.max, ⟨fun hne => absurd hkind hne, ?_⟩, ?_⟩,
        h.clean⟩
      · exact h.holds.addressed.second
      · exact ⟨hpreserved.first, hpreserved.second, hpreserved.batches, hpreserved.waiting⟩
  · exact h

/-- One step. -/
theorem Inv.step (h : b.Inv maxBatch) {e : BatchEvent Address} (hok : b.StepOk e) :
    ∃ b', b.step e = .ok b' ∧ b'.Inv maxBatch := by
  cases e with
  | write buf => exact h.write hok
  | flush flushType => exact h.flush hok
  | attach peerAddress => exact ⟨_, rfl, h.attach peerAddress⟩

theorem Inv.new {w : BatchWriter Address} (hready : w.Ready [] []) (hclean : w.Clean [])
    (hone : 1 ≤ w.maxBatch) (hmax : w.maxBatch ≤ maxBatch) (threadLocal : Bool)
    (peerAddress : Address) (happyEyeballsState : Option (HappyEyeballsState Address)) :
    (IOBufQuicBatch.new w threadLocal peerAddress happyEyeballsState).Inv maxBatch := by
  refine ⟨⟨hready, hone, hmax, .nil rfl, ?_, ?_, ?_, Nat.zero_le _⟩, hclean⟩
  · exact fun _ _ => rfl
  · exact fun _ _ _ => rfl
  · intro batch hbatch
    cases hbatch

/-- In a run whose steps all pass the packets on, every state has them preserved and no assertion
fails. -/
theorem datagrams_preserved (batchingMode : QuicBatchingMode) (batchSize : Nat)
    (dataPathType : DataPathType) (udpSendPacketLen : Nat) (gsoSupported threadLocal : Bool)
    (peerAddress : Address) (happyEyeballsState : Option (HappyEyeballsState Address))
    (events : List (BatchEvent Address)) (hsize : 1 ≤ batchSize)
    (hmeets : Meets step StepOk (.new (makeBatchWriter batchingMode batchSize dataPathType
      udpSendPacketLen gsoSupported) threadLocal peerAddress happyEyeballsState) events) :
    ∀ fs, fs <+: events → ∃ b, fs.foldlM step (.new (makeBatchWriter batchingMode batchSize
      dataPathType udpSendPacketLen gsoSupported) threadLocal peerAddress happyEyeballsState) =
        .ok b ∧ b.Preserved batchSize := by
  intro fs hfs
  obtain ⟨hready, hclean, hone, hmax⟩ := @BatchWriter.makeBatchWriter_ready Address _ _ hsize
    batchingMode dataPathType udpSendPacketLen gsoSupported _ rfl
  obtain ⟨b, hrun, hinv⟩ := run_of_meets (fun _ _ h hok => h.step hok)
    (Inv.new hready hclean hone hmax threadLocal peerAddress happyEyeballsState)
    (hmeets.of_prefix hfs)
  exact ⟨b, hrun, hinv.holds.preserved⟩

/-! ### Runs on given packets -/

instance (b : IOBufQuicBatch Address) : Decidable b.OneSocket :=
  inferInstanceAs (Decidable (_ → _))

instance (b : IOBufQuicBatch Address) : Decidable b.SameAddress :=
  decidable_of_iff (b.batchWriter.kind = .sendmmsgGSO → ∀ address ∈ b.secondAddress.toList,
    b.peerAddress = address) (by simp [SameAddress])

instance (pending : List (Datagram Address)) (w : BatchWriter Address) :
    Decidable (w.Visible pending) :=
  inferInstanceAs (Decidable (_ → _))

instance (pending : List (Datagram Address)) (size : Nat) (addr : Address) :
    ∀ w : BatchWriter Address, Decidable (w.CanTake pending size addr)
  | .single _ => .isTrue trivial
  | .gso w => inferInstanceAs (Decidable (pending = [] ∨ 2 ≤ w.maxBufs ∧ 0 < w.prevSize ∧ 0 < size))
  | .gsoInplace w =>
      inferInstanceAs (Decidable (pending = [] ∨ 2 ≤ w.maxPackets ∧ 0 < w.prevSize ∧ 0 < size))
  | .sendmmsg _ => .isTrue trivial
  | .sendmmsgGSO w => inferInstanceAs (Decidable ((w.joins size addr).isSome = true → 0 < size))

instance (b : IOBufQuicBatch Address) : ∀ e, Decidable (b.StepOk e)
  | .write buf => inferInstanceAs (Decidable (b.SameAddress ∧
      if (b.batchWriter.needsFlush buf.length).2 then b.OneSocket
      else b.batchWriter.CanTake b.pending buf.length b.peerAddress ∧
        (b.batchWriter.Completes b.pending buf.length = true →
          b.OneSocket ∧ b.batchWriter.Visible (b.pending ++ [(b.peerAddress, buf)]))))
  | .flush _ => inferInstanceAs (Decidable (_ ∨ b.pending = [] ∨
      b.OneSocket ∧ b.batchWriter.Visible b.pending))
  | .attach _ => .isTrue trivial

/-- Packets of two sizes to both sockets: the larger one starts another batch. -/
theorem datagrams_preserved_chained :
    Meets step StepOk (.new (makeBatchWriter .gso 3 .chainedMemory 1252 true) false false
      (some ⟨true, true, true, .inl rfl⟩))
      [.write [1, 2], .write [3, 4], .write [5, 6, 7], .write [8], .flush .always] ∧
    ∀ fs, fs <+: [.write [1, 2], .write [3, 4], .write [5, 6, 7], .write [8], .flush .always] →
      ∃ b, fs.foldlM step (.new (makeBatchWriter .gso 3 .chainedMemory 1252 true) false false
        (some ⟨true, true, true, .inl rfl⟩)) = .ok b ∧ b.Preserved 3 := by
  have hmeets : Meets step StepOk (.new (makeBatchWriter .gso 3 .chainedMemory 1252 true) false false
      (some ⟨true, true, true, .inl rfl⟩))
      [.write [1, 2], .write [3, 4], .write [5, 6, 7], .write [8], .flush .always] := by
    decide +kernel
  exact ⟨hmeets, datagrams_preserved .gso 3 .chainedMemory 1252 true false false _ _ (by decide)
    hmeets⟩

/-- With maximum one a chain takes a second packet. The in-place writer has nothing left for the second
socket, and chains go to the first address from there. -/
theorem datagrams_not_preserved :
    (∃ b : IOBufQuicBatch Bool,
      [BatchEvent.write [1], .write [2], .flush .always].foldlM step
        (.new (makeBatchWriter .gso 1 .chainedMemory 1252 true) false false none) = .ok b ∧
      b.first = [[(false, [1]), (false, [2])]] ∧ ¬ b.Preserved 1) ∧
    [BatchEvent.write [1], .flush .always].foldlM step
      (.new (makeBatchWriter .gso 16 .continuousMemory 1252 true) false false
        (some ⟨true, true, true, .inl rfl⟩)) = .error .lastPacketEnd ∧
    ∃ b : IOBufQuicBatch Bool,
      [BatchEvent.write [1], .flush .always].foldlM step
        (.new (makeBatchWriter .sendmmsgGSO 16 .chainedMemory 1252 true) false false
          (some ⟨true, true, true, .inl rfl⟩)) = .ok b ∧
      b.secondAddress = some true ∧ b.second = [[(false, [1])]] ∧ ¬ b.Preserved 16 := by
  refine ⟨⟨_, rfl, rfl, fun h => ?_⟩, rfl, ⟨_, rfl, rfl, rfl, fun h => ?_⟩⟩
  · exact absurd (h.batches [(false, [1]), (false, [2])] List.mem_cons_self) (by decide)
  · exact absurd (h.second true rfl true) (by decide)

end

end IOBufQuicBatch

end MasqueQuic
