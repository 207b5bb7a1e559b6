/-
Address allocation under every interleaving of the worker threads.

A registration is four atomic steps: two increments of the counter, the lookup
of the `CHECK`, and the insertion. The event of a step is the thread that takes
it; what the step does follows from where the thread is. `counters` records the
values used so far and `afterSecond` whether the last increment was the second
one of its registration.

A value is used when a second increment returns it, so two threads whose second
increments follow each other directly use neighbouring values. If the later of
the two is odd, both addresses lie in one /31.
-/

import MasqueQuic.Lib.Run
import MasqueQuic.Masque.Upstream

namespace MasqueQuic

/-- Where a thread is in `registerTransaction`. -/
inductive Phase where
  | idle
  | incremented
  | counted (currentCounter : Nat)
  | checked (currentCounter : Nat)
  deriving DecidableEq

/-- The shared device and its threads. The callback registered for a thread is
the thread. -/
structure Allocator where
  tun : SharedTun Nat
  phase : Nat → Phase
  counters : List Nat
  afterSecond : Bool

namespace Allocator

/-- A new device, before any registration. -/
def start (subnet : Subnet) : Allocator := ⟨.ofSubnet subnet, fun _ => .idle, [], false⟩

section Machine

variable (plus : IPAddressV4 → Nat → IPAddressV4)

/-- The address for a value of the counter. -/
def addressOf (s : Allocator) (currentCounter : Nat) : IPAddressV4 :=
  plus s.tun.subnet.base currentCounter

/-- The addresses assigned so far. -/
def assigned (s : Allocator) : List IPAddressV4 := s.counters.map (s.addressOf plus)

/-- `subnetCounter++;` -/
def firstIncrement (s : Allocator) (thread : Nat) : Allocator :=
  { s with
    tun := s.tun.increment
    phase := Function.update s.phase thread .incremented
    afterSecond := false }

/-- `currentCounter = subnetCounter++;` -/
def secondIncrement (s : Allocator) (thread : Nat) : Allocator :=
  { tun := s.tun.increment
    phase := Function.update s.phase thread (.counted s.tun.subnetCounter)
    counters := s.tun.subnetCounter :: s.counters
    afterSecond := true }

/-- The `CHECK` has passed. -/
def lookedUp (s : Allocator) (thread currentCounter : Nat) : Allocator :=
  { s with phase := Function.update s.phase thread (.checked currentCounter) }

/-- `streamMap.insert(...)`, and the call returns. -/
def inserted (s : Allocator) (thread currentCounter : Nat) : Allocator :=
  { s with
    tun := s.tun.insert (s.addressOf plus currentCounter) thread
    phase := Function.update s.phase thread .idle }

/-- One atomic step of a thread. -/
def step (s : Allocator) (thread : Nat) : Except Fault Allocator :=
  match s.phase thread with
  | .idle => return s.firstIncrement thread
  | .incremented => return s.secondIncrement thread
  | .counted currentCounter => do
      check (!s.tun.isRegistered (s.addressOf plus currentCounter))
      return s.lookedUp thread currentCounter
  | .checked currentCounter => return s.inserted plus thread currentCounter

/-- Four steps of one thread, with no other thread in between, are a call of
`registerTransaction`. -/
theorem run_serial (s : Allocator) (thread : Nat) (hidle : s.phase thread = .idle) :
    [thread, thread, thread, thread].foldlM (step plus) s =
      (s.tun.registerTransaction plus thread).map fun result =>
        { tun := result.2
          phase := s.phase
          counters := s.tun.increment.subnetCounter :: s.counters
          afterSecond := true } := by
  have hphase : Function.update s.phase thread .idle = s.phase := by
    rw [← hidle, Function.update_eq_self]
  simp only [List.foldlM_cons, List.foldlM_nil, step, hidle, firstIncrement, secondIncrement,
    lookedUp, inserted, addressOf, SharedTun.registerTransaction, pure, Except.pure, bind,
    Except.bind, Function.update_self, Function.update_idem]
  cases check (!s.tun.increment.increment.isRegistered
    (plus s.tun.increment.increment.subnet.base s.tun.increment.subnetCounter)) with
  | error fault => rfl
  | ok u => simp [Except.map, hphase]

/-- The condition on a step. A second increment stays inside the subnet, and an
odd value is not used directly after another second increment. A first increment
does not wrap the counter. -/
def Apart (s : Allocator) (thread : Nat) : Prop :=
  match s.phase thread with
  | .idle => s.tun.subnetCounter + 1 < 2 ^ 64
  | .incremented => s.tun.subnet.HasOffset s.tun.subnetCounter ∧
      ¬ (s.tun.subnetCounter % 2 = 1 ∧ s.afterSecond = true)
  | _ => True

instance (s : Allocator) (thread : Nat) : Decidable (s.Apart thread) := by
  unfold Apart
  split <;> infer_instance

/-- The thread has a value and has not yet inserted its address. -/
def Holds (s : Allocator) (thread currentCounter : Nat) : Prop :=
  s.phase thread = .counted currentCounter ∨ s.phase thread = .checked currentCounter

structure Inv (subnet : Subnet) (s : Allocator) : Prop where
  subnet_eq : s.tun.subnet = subnet
  used : ∀ c ∈ s.counters, c < s.tun.subnetCounter ∧ subnet.HasOffset c
  apart : s.counters.Pairwise fun a b => a / 2 ≠ b / 2
  last : s.afterSecond = true ↔ ∃ c ∈ s.counters, c + 1 = s.tun.subnetCounter
  held : ∀ t c, s.Holds t c → c ∈ s.counters ∧
    (s.addressOf plus c).toLongHBO ∉ s.tun.streamMap.map Prod.fst
  held_unique : ∀ t t' c, s.Holds t c → s.Holds t' c → t = t'
  keys : ∀ key ∈ s.tun.streamMap.map Prod.fst,
    ∃ c ∈ s.counters, key = (s.addressOf plus c).toLongHBO

/-- What is assumed of the addition: below 2^32 it adds to the host-order value. -/
def AddsBelow : Prop :=
  ∀ ip n, ip.toLongHBO + n < 2 ^ 32 → (plus ip n).toLongHBO = ip.toLongHBO + n

variable {plus} {subnet : Subnet} {s : Allocator}

theorem inv_start (subnet : Subnet) : Inv plus subnet (start subnet) := by
  constructor <;> simp [start, SharedTun.ofSubnet, Holds]

theorem Inv.toLongHBO_addressOf (hplus : AddsBelow plus) (h : Inv plus subnet s) {c : Nat}
    (hc : subnet.HasOffset c) :
    (s.addressOf plus c).toLongHBO = subnet.base.toLongHBO + c := by
  rw [addressOf, h.subnet_eq]
  exact hplus _ _ hc.lt

/-- A second increment never uses the /31 of an earlier value. -/
theorem Inv.div_two_ne (h : Inv plus subnet s)
    (hapart : ¬ (s.tun.subnetCounter % 2 = 1 ∧ s.afterSecond = true)) {c : Nat}
    (hc : c ∈ s.counters) : s.tun.subnetCounter / 2 ≠ c / 2 := by
  intro hdiv
  have hlt := (h.used c hc).1
  have hnext : c + 1 = s.tun.subnetCounter := by omega
  exact hapart ⟨by omega, h.last.mpr ⟨c, hc, hnext⟩⟩

/-- What the threads hold after one of them has moved. -/
theorem holds_update {s' : Allocator} {thread : Nat} {phase : Phase}
    (hphase : s'.phase = Function.update s.phase thread phase) {t c : Nat} (h : s'.Holds t c) :
    (t = thread ∧ (phase = .counted c ∨ phase = .checked c)) ∨ (t ≠ thread ∧ s.Holds t c) := by
  unfold Holds at h
  rw [hphase] at h
  by_cases ht : t = thread
  · subst ht
    exact .inl ⟨rfl, by simpa using h⟩
  · exact .inr ⟨ht, by simpa [ht, Holds] using h⟩

theorem Inv.firstIncrement (h : Inv plus subnet s) {thread : Nat}
    (hwrap : s.tun.subnetCounter + 1 < 2 ^ 64) : Inv plus subnet (s.firstIncrement thread) := by
  have hcounter : s.tun.increment.subnetCounter = s.tun.subnetCounter + 1 := Nat.mod_eq_of_lt hwrap
  have hold : ∀ t c, (s.firstIncrement thread).Holds t c → s.Holds t c := by
    intro t c ht
    rcases holds_update rfl ht with ⟨-, hphase⟩ | ⟨-, ht⟩
    · simp at hphase
    · exact ht
  refine ⟨h.subnet_eq, ?_, h.apart, ?_, fun t c ht => h.held t c (hold t c ht),
    fun t t' c ht ht' => h.held_unique t t' c (hold t c ht) (hold t' c ht'), h.keys⟩
  · intro c hc
    change c < s.tun.increment.subnetCounter ∧ _
    rw [hcounter]
    exact ⟨Nat.lt_succ_of_lt (h.used c hc).1, (h.used c hc).2⟩
  · refine ⟨fun hsecond => (by cases hsecond), ?_⟩
    rintro ⟨c, hc, hnext⟩
    change c + 1 = s.tun.increment.subnetCounter at hnext
    have hlt := (h.used c hc).1
    omega

theorem Inv.secondIncrement (hplus : AddsBelow plus) (h : Inv plus subnet s) {thread : Nat}
    (hoffset : subnet.HasOffset s.tun.subnetCounter)
    (hapart : ¬ (s.tun.subnetCounter % 2 = 1 ∧ s.afterSecond = true)) :
    Inv plus subnet (s.secondIncrement thread) := by
  have hwrap : s.tun.subnetCounter + 1 < 2 ^ 64 := by
    have hlt := hoffset.lt
    omega
  have hcounter : s.tun.increment.subnetCounter = s.tun.subnetCounter + 1 := Nat.mod_eq_of_lt hwrap
  -- The values already used are below the new one, so their addresses are other ones.
  have hnew : (s.addressOf plus s.tun.subnetCounter).toLongHBO ∉ s.tun.streamMap.map Prod.fst := by
    intro hmem
    obtain ⟨c, hc, hkey⟩ := h.keys _ hmem
    obtain ⟨hlt, hin⟩ := h.used c hc
    rw [h.toLongHBO_addressOf hplus hoffset, h.toLongHBO_addressOf hplus hin] at hkey
    omega
  have hold : ∀ t c, (s.secondIncrement thread).Holds t c →
      (t = thread ∧ c = s.tun.subnetCounter) ∨ (s.Holds t c ∧ c < s.tun.subnetCounter) := by
    intro t c ht
    rcases holds_update rfl ht with ⟨rfl, hphase⟩ | ⟨-, ht⟩
    · simp only [Phase.counted.injEq, reduceCtorEq, or_false] at hphase
      exact .inl ⟨rfl, hphase.symm⟩
    · exact .inr ⟨ht, (h.used c (h.held t c ht).1).1⟩
  refine ⟨h.subnet_eq, ?_, ?_, ⟨fun _ => ⟨_, List.mem_cons_self, hcounter.symm⟩, fun _ => rfl⟩,
    ?_, ?_, ?_⟩
  · intro c hc
    change c < s.tun.increment.subnetCounter ∧ _
    rw [hcounter]
    rcases List.mem_cons.mp hc with rfl | hc
    · exact ⟨Nat.lt_succ_self _, hoffset⟩
    · exact ⟨Nat.lt_succ_of_lt (h.used c hc).1, (h.used c hc).2⟩
  · exact List.pairwise_cons.mpr ⟨fun c hc => h.div_two_ne hapart hc, h.apart⟩
  · intro t c ht
    rcases hold t c ht with ⟨-, rfl⟩ | ⟨ht, -⟩
    · exact ⟨List.mem_cons_self, hnew⟩
    · exact ⟨List.mem_cons_of_mem _ (h.held t c ht).1, (h.held t c ht).2⟩
  · intro t t' c ht ht'
    rcases hold t c ht with ⟨rfl, rfl⟩ | ⟨ht, hlt⟩
    · rcases hold t' _ ht' with ⟨rfl, -⟩ | ⟨-, hlt⟩
      · rfl
      · exact absurd hlt (Nat.lt_irrefl _)
    · rcases hold t' c ht' with ⟨-, rfl⟩ | ⟨ht', -⟩
      · exact absurd hlt (Nat.lt_irrefl _)
      · exact h.held_unique t t' c ht ht'
  · intro key hkey
    obtain ⟨c, hc, heq⟩ := h.keys key hkey
    exact ⟨c, List.mem_cons_of_mem _ hc, heq⟩

theorem Inv.lookedUp (h : Inv plus subnet s) {thread c : Nat}
    (hthread : s.phase thread = .counted c) : Inv plus subnet (s.lookedUp thread c) := by
  have hold : ∀ t c', (s.lookedUp thread c).Holds t c' → s.Holds t c' := by
    intro t c' ht
    rcases holds_update rfl ht with ⟨rfl, hphase⟩ | ⟨-, ht⟩
    · simp only [reduceCtorEq, Phase.checked.injEq, false_or] at hphase
      subst hphase
      exact .inl hthread
    · exact ht
  exact ⟨h.subnet_eq, h.used, h.apart, h.last, fun t c' ht => h.held t c' (hold t c' ht),
    fun t t' c' ht ht' => h.held_unique t t' c' (hold t c' ht) (hold t' c' ht'), h.keys⟩

theorem Inv.inserted (hplus : AddsBelow plus) (h : Inv plus subnet s) {thread c : Nat}
    (hthread : s.phase thread = .checked c) : Inv plus subnet (s.inserted plus thread c) := by
  have hthread : s.Holds thread c := .inr hthread
  have haddress : ∀ c', (s.inserted plus thread c).addressOf plus c' = s.addressOf plus c' := by
    intro c'
    simp [addressOf, Allocator.inserted]
  have hold : ∀ t c', (s.inserted plus thread c).Holds t c' → t ≠ thread ∧ s.Holds t c' := by
    intro t c' ht
    rcases holds_update rfl ht with ⟨-, hphase⟩ | ht
    · simp at hphase
    · exact ht
  refine ⟨by simpa [Allocator.inserted] using h.subnet_eq,
    by simpa [Allocator.inserted] using h.used, h.apart,
    by simpa [Allocator.inserted] using h.last, ?_,
    fun t t' c' ht ht' => h.held_unique t t' c' (hold t c' ht).2 (hold t' c' ht').2, ?_⟩
  · intro t c' ht
    obtain ⟨hne, hheld⟩ := hold t c' ht
    obtain ⟨hc', hfree⟩ := h.held t c' hheld
    refine ⟨hc', fun hmem => ?_⟩
    rw [haddress] at hmem
    rcases SharedTun.mem_keys_insert.mp hmem with hmem | heq
    · exact hfree hmem
    · -- Another thread that holds this address would hold this value.
      rw [h.toLongHBO_addressOf hplus (h.used c' hc').2,
        h.toLongHBO_addressOf hplus (h.used c (h.held thread c hthread).1).2] at heq
      obtain rfl : c' = c := by omega
      exact hne (h.held_unique t thread c' hheld hthread)
  · intro key hkey
    rcases SharedTun.mem_keys_insert.mp hkey with hkey | rfl
    · obtain ⟨c', hc', heq⟩ := h.keys key hkey
      exact ⟨c', hc', by rw [heq, haddress]⟩
    · exact ⟨c, (h.held thread c hthread).1, by rw [haddress]⟩

/-- A step under the condition succeeds and keeps the invariant. -/
theorem Inv.step (hplus : AddsBelow plus) (h : Inv plus subnet s) {thread : Nat}
    (hcond : s.Apart thread) :
    ∃ s', Allocator.step plus s thread = .ok s' ∧ Inv plus subnet s' := by
  unfold Apart at hcond
  unfold Allocator.step
  cases hphase : s.phase thread with
  | idle =>
    rw [hphase] at hcond
    exact ⟨_, rfl, h.firstIncrement hcond⟩
  | incremented =>
    rw [hphase, h.subnet_eq] at hcond
    exact ⟨_, rfl, h.secondIncrement hplus hcond.1 hcond.2⟩
  | counted c =>
    have hfree : s.tun.isRegistered (s.addressOf plus c) = false := by
      rw [Bool.eq_false_iff, ne_eq, SharedTun.isRegistered_iff]
      exact (h.held thread c (.inl hphase)).2
    refine ⟨s.lookedUp thread c, ?_, h.lookedUp hphase⟩
    simp [hfree, check, bind, Except.bind, pure, Except.pure]
  | checked c => exact ⟨_, rfl, h.inserted hplus hphase⟩

/-! ### What has been assigned -/

theorem Subnet.contains_of_offset {ip : IPAddressV4} {c : Nat} (hc : subnet.HasOffset c)
    (hip : ip.toLongHBO = subnet.base.toLongHBO + c) : subnet.Contains ip := by
  have hbase := Nat.div_add_mod subnet.base.toLongHBO subnet.size
  unfold Subnet.HasOffset at hc
  unfold Subnet.Contains
  rw [hip, ← hbase, Nat.add_assoc, Nat.mul_add_div subnet.size_pos, Nat.div_eq_of_lt hc, hbase]
  rfl

/-- The base is even, so counters in different pairs give addresses in different /31s. -/
theorem toLongHBO_div_two (subnet : Subnet) (c : Nat) :
    (subnet.base.toLongHBO + c) / 2 = subnet.base.toLongHBO / 2 + c / 2 := by
  have hlast := subnet.lastOctet
  omega

theorem Inv.assigned_contains (hplus : AddsBelow plus) (h : Inv plus subnet s) :
    ∀ ip ∈ s.assigned plus, subnet.Contains ip := by
  intro ip hip
  obtain ⟨c, hc, rfl⟩ := List.mem_map.mp hip
  obtain ⟨-, hoffset⟩ := h.used c hc
  exact Subnet.contains_of_offset hoffset (h.toLongHBO_addressOf hplus hoffset)

theorem Inv.assigned_pairwise (hplus : AddsBelow plus) (h : Inv plus subnet s) :
    (s.assigned plus).Pairwise fun a b => a.toLongHBO / 2 ≠ b.toLongHBO / 2 := by
  rw [assigned, List.pairwise_map]
  refine h.apart.imp_of_mem fun {a b} ha hb hne => ?_
  rw [h.toLongHBO_addressOf hplus (h.used a ha).2, h.toLongHBO_addressOf hplus (h.used b hb).2,
    toLongHBO_div_two, toLongHBO_div_two]
  omega

end Machine

/-- What allocation promises: the addresses are distinct, lie in the subnet, and
no two of them share a /31. -/
def Allocated (subnet : Subnet) (ips : List IPAddressV4) : Prop :=
  ips.Nodup ∧ (∀ ip ∈ ips, subnet.Contains ip) ∧
    ips.Pairwise fun a b => a.toLongHBO / 2 ≠ b.toLongHBO / 2

instance (subnet : Subnet) (ips : List IPAddressV4) : Decidable (Allocated subnet ips) := by
  unfold Allocated
  infer_instance

theorem not_contains_of_offset {subnet : Subnet} {ip : IPAddressV4} {c : Nat}
    (hc : ¬ subnet.HasOffset c) (hip : ip.toLongHBO = subnet.base.toLongHBO + c) :
    ¬ subnet.Contains ip := by
  intro hin
  have hbase := Nat.div_add_mod subnet.base.toLongHBO subnet.size
  have hip' := Nat.div_add_mod ip.toLongHBO subnet.size
  have hlt := Nat.mod_lt ip.toLongHBO subnet.size_pos
  unfold Subnet.Contains at hin
  unfold Subnet.HasOffset at hc
  rw [hin] at hip'
  omega

/-- A second increment that does not meet the condition breaks the promise: the
server neither refuses an exhausted subnet nor skips a value. -/
theorem not_allocated_of_not_apart {plus : IPAddressV4 → Nat → IPAddressV4} (hplus : AddsBelow plus)
    {subnet : Subnet} {s : Allocator} (h : Inv plus subnet s) {thread : Nat}
    (hphase : s.phase thread = .incremented) (hcond : ¬ s.Apart thread)
    (hsum : subnet.base.toLongHBO + s.tun.subnetCounter < 2 ^ 32) :
    ∃ s', step plus s thread = .ok s' ∧ ¬ Allocated subnet (s'.assigned plus) := by
  refine ⟨s.secondIncrement thread, by rw [step, hphase]; rfl, fun halloc => hcond ?_⟩
  obtain ⟨-, hin, hpairs⟩ := halloc
  have hnew : (s.addressOf plus s.tun.subnetCounter).toLongHBO =
      subnet.base.toLongHBO + s.tun.subnetCounter := by
    rw [addressOf, h.subnet_eq]
    exact hplus _ _ hsum
  unfold Apart
  rw [hphase, h.subnet_eq]
  constructor
  · by_contra hoffset
    exact not_contains_of_offset hoffset hnew (hin _ List.mem_cons_self)
  · rintro ⟨hodd, hsecond⟩
    obtain ⟨c, hc, hnext⟩ := h.last.mp hsecond
    have hne := (List.pairwise_cons.mp hpairs).1 _ (List.mem_map_of_mem hc)
    apply hne
    change (s.addressOf plus s.tun.subnetCounter).toLongHBO / 2 =
      (s.addressOf plus c).toLongHBO / 2
    rw [hnew, h.toLongHBO_addressOf hplus (h.used c hc).2, toLongHBO_div_two, toLongHBO_div_two]
    omega

/-- Under every interleaving whose steps meet the condition, no `CHECK` fails and
the addresses assigned are as promised. -/
theorem allocation_of_apart (plus : IPAddressV4 → Nat → IPAddressV4) (hplus : AddsBelow plus)
    (subnet : Subnet) (schedule : List Nat)
    (hapart : Meets (step plus) Apart (start subnet) schedule) :
    ∃ s, schedule.foldlM (step plus) (start subnet) = .ok s ∧
      Allocated subnet (s.assigned plus) := by
  obtain ⟨s, hrun, hinv⟩ := run_of_meets (fun s thread h => Inv.step (s := s) hplus h)
    (inv_start subnet) hapart
  have hpairs := hinv.assigned_pairwise hplus
  refine ⟨s, hrun, ?_, hinv.assigned_contains hplus, hpairs⟩
  exact hpairs.imp fun hne heq => hne (by rw [heq])

theorem addsBelow_plusHBO : AddsBelow plusHBO := fun _ _ h =>
  IPAddressV4.toLongHBO_fromLongHBO h

/-- Two registrations one after the other. -/
theorem allocation_serial :
    Meets (step plusHBO) Apart (start Subnet.default) [0, 0, 0, 0, 1, 1, 1, 1] ∧
      ∃ s, [0, 0, 0, 0, 1, 1, 1, 1].foldlM (step plusHBO) (start Subnet.default) = .ok s ∧
        Allocated Subnet.default (s.assigned plusHBO) := by
  have hapart : Meets (step plusHBO) Apart (start Subnet.default) [0, 0, 0, 0, 1, 1, 1, 1] := by
    decide +kernel
  exact ⟨hapart, allocation_of_apart plusHBO addsBelow_plusHBO Subnet.default _ hapart⟩

/-- The increments of two registrations alternate: the addresses `.2` and `.3`
are in one /31. -/
theorem allocation_interleaved_fails :
    ∃ s, [0, 1, 0, 1, 0, 0, 1, 1].foldlM (step plusHBO) (start Subnet.default) = .ok s ∧
      s.assigned plusHBO = [.ofOctets 192 168 0 3, .ofOctets 192 168 0 2] ∧
      ¬ Allocated Subnet.default (s.assigned plusHBO) := by
  decide +kernel

end Allocator

end MasqueQuic
