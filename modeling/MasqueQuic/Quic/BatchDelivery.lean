/-
What a batch writer hands over.

A writer that is `Ready` holds the packets that wait, in a form that it can hand over; between the calls
of `IOBufQuicBatch` it is also `Clean`, so that it can take another packet. Handing over gives one
datagram for each packet, in order for each destination (`Ready.write`). Taking a packet keeps the
writer ready (`Ready.append`), if the packet may join those that wait (`CanTake`).
-/

import MasqueQuic.Quic.BatchWriter

namespace MasqueQuic

variable {Address : Type}

/-- How many bytes wait. -/
def totalSize (pending : List (Datagram Address)) : Nat := (pending.map fun q => q.2.length).sum

theorem totalSize_concat (pending : List (Datagram Address)) (q : Datagram Address) :
    totalSize (pending ++ [q]) = totalSize pending + q.2.length := by
  unfold totalSize
  rw [List.map_append, List.sum_append]
  rfl

/-! ### Writers that can hand over -/

/-- The packets are in the buffer, in front of `extra`. -/
structure GSOInplacePacketBatchWriter.Ready (w : GSOInplacePacketBatchWriter) (packets : List Bytes)
    (extra : Bytes) : Prop where
  buf : w.buf = packets.flatten ++ extra
  last : packets ≠ [] → w.lastPacketEnd = some packets.flatten.length
  count : w.numPackets = packets.length
  cuttable : 2 ≤ packets.length → Pieces.Cuttable w.prevSize packets

/-- Packets that one call can cut, or a single one, go out as they are. -/
theorem AsyncUDPSocket.write_packets (address : Address) {packets bufs : List Bytes}
    {count gso : Nat} (hbufs : bufs.flatten = packets.flatten) (hcount : count = packets.length)
    (hne : packets ≠ []) (hcut : 2 ≤ packets.length → Pieces.Cuttable gso packets) :
    (if count > 1 then writeGSO address bufs gso else write address bufs) =
      packets.map fun p => (address, p) := by
  by_cases hmany : count > 1
  · rw [if_pos hmany, writeGSO, hbufs, Pieces.cut_flatten (hcut (by omega)) hne]
  · rw [if_neg hmany, write, hbufs]
    have hpos := List.length_pos_of_ne_nil hne
    obtain ⟨p, rfl⟩ := List.length_eq_one_iff.mp (show packets.length = 1 by omega)
    rw [List.flatten_singleton]
    rfl

namespace GSOChain

def datagrams (c : GSOChain Address) : List (Datagram Address) := c.buf.map fun p => (c.addr, p)

/-- A chain is one packet, or it can be cut. The last packet is the one whose size is remembered. -/
structure Sound (c : GSOChain Address) : Prop where
  single : c.gso = 0 → ∃ p, c.buf = [p] ∧ c.prevSize = p.length
  several : c.gso ≠ 0 → Pieces.Cuttable c.gso c.buf ∧
    ∃ init p, c.buf = init ++ [p] ∧ c.prevSize = p.length ∧ ∀ q ∈ init, q.length = c.gso

theorem Sound.send {c : GSOChain Address} (h : c.Sound) : c.send = c.datagrams := by
  unfold GSOChain.send datagrams
  by_cases hgso : c.gso = 0
  · obtain ⟨p, hbuf, -⟩ := h.single hgso
    rw [if_pos hgso, hbuf]
    unfold AsyncUDPSocket.write
    rw [List.flatten_singleton]
    rfl
  · obtain ⟨hcut, init, p, hbuf, -, -⟩ := h.several hgso
    rw [if_neg hgso, AsyncUDPSocket.writeGSO, Pieces.cut_flatten hcut]
    rw [hbuf]
    exact List.append_ne_nil_of_right_ne_nil _ (List.cons_ne_nil _ _)

/-- A packet that is not empty may be appended where the chain takes it. -/
theorem Sound.append {c : GSOChain Address} (h : c.Sound) {buf : Bytes}
    (htakes : c.takes buf.length = true) (hpos : 0 < buf.length) : (c.append buf buf.length).Sound := by
  unfold takes at htakes
  simp only [Bool.and_eq_true, decide_eq_true_eq, Bool.or_eq_true, beq_iff_eq] at htakes
  obtain ⟨hle, hgso⟩ := htakes
  have hprev : c.prevSize ≠ 0 := by omega
  have hfull : ∀ q ∈ c.buf, q.length = c.prevSize := by
    by_cases hzero : c.gso = 0
    · obtain ⟨p, hbuf, hsize⟩ := h.single hzero
      intro q hq
      rw [hbuf] at hq
      rw [List.mem_singleton.mp hq, hsize]
    · obtain ⟨-, init, p, hbuf, hsize, hinit⟩ := h.several hzero
      have heq := hgso.resolve_left hzero
      intro q hq
      rw [hbuf] at hq
      cases List.mem_append.mp hq with
      | inl hq => rw [hinit q hq, heq]
      | inr hq => rw [List.mem_singleton.mp hq, hsize]
  constructor
  · intro hzero
    exact absurd hzero hprev
  · intro _
    exact ⟨.concat hfull hpos hle, c.buf, buf, rfl, rfl, hfull⟩

end GSOChain

/-- The chains hold the packets, those for one address in order. A new packet joins the last chain of
its address. -/
structure SendmmsgGSOPacketBatchWriter.Ready [DecidableEq Address]
    (w : SendmmsgGSOPacketBatchWriter Address) (pending : List (Datagram Address)) : Prop where
  sound : ∀ c ∈ w.chains, c.Sound
  order : ∀ addr, (w.chains.flatMap GSOChain.datagrams).filter (·.1 = addr) =
    pending.filter (·.1 = addr)
  last : ∀ addr idx, w.addrMap addr = some idx → ∃ pre c post, w.chains = pre ++ c :: post ∧
    pre.length = idx ∧ c.addr = addr ∧ ∀ d ∈ post, d.addr ≠ addr
  length : (w.chains.flatMap GSOChain.datagrams).length = pending.length
  count : w.currBufs = pending.length
  size : w.currSize = totalSize pending

namespace SendmmsgGSOPacketBatchWriter

variable [DecidableEq Address] {w : SendmmsgGSOPacketBatchWriter Address}
  {pending : List (Datagram Address)}

theorem Ready.reset (maxBufs : Nat) :
    Ready (⟨maxBufs, [], fun _ => none, 0, 0⟩ : SendmmsgGSOPacketBatchWriter Address) [] where
  sound c hc := absurd hc List.not_mem_nil
  order _ := rfl
  last _ _ h := by cases h
  length := rfl
  count := rfl
  size := rfl

/-- All chains are sent. -/
theorem Ready.write (h : w.Ready pending) (hne : pending ≠ []) :
    w.write = .ok (w.chains.flatMap GSOChain.datagrams) := by
  have hsend : w.chains.flatMap GSOChain.send = w.chains.flatMap GSOChain.datagrams :=
    List.flatMap_congr fun c hc => (h.sound c hc).send
  have hlength := h.length
  have hcount := h.count
  unfold SendmmsgGSOPacketBatchWriter.write
  split
  · next hnil =>
      rw [hnil] at hlength
      exact absurd (List.length_eq_zero_iff.mp hlength.symm) hne
  · next c hc =>
      have hsound := h.sound c (by rw [hc]; exact List.mem_singleton_self c)
      rw [hc, List.flatMap_cons, List.flatMap_nil, List.append_nil] at hlength ⊢
      unfold GSOChain.datagrams at hlength ⊢
      rw [List.length_map, ← hcount] at hlength
      have hpos := List.length_pos_of_ne_nil hne
      refine congrArg Except.ok (AsyncUDPSocket.write_packets c.addr rfl hlength.symm ?_ ?_)
      · exact List.ne_nil_of_length_pos (by omega)
      · intro htwo
        refine (hsound.several fun hzero => ?_).1
        obtain ⟨p, hbuf, -⟩ := hsound.single hzero
        rw [hbuf, List.length_singleton] at htwo
        omega
  · rw [← hsend]

/-- A packet that joins a chain is the last one for its address. -/
theorem Ready.append_some (h : w.Ready pending) {buf : Bytes} {addr : Address} {idx : Nat}
    (hjoins : w.joins buf.length addr = some idx) (hpos : 0 < buf.length) :
    Ready { w with
      currSize := w.currSize + buf.length
      chains := w.chains.modify idx (·.append buf buf.length)
      currBufs := w.currBufs + 1 } (pending ++ [(addr, buf)]) := by
  obtain ⟨hmap, htakes⟩ := Option.filter_eq_some_iff.mp hjoins
  obtain ⟨pre, c, post, hchains, rfl, rfl, hpost⟩ := h.last addr idx hmap
  have hget : w.chains[pre.length]? = some c := by
    rw [hchains]
    simp
  rw [hget, Option.any_some] at htakes
  have hmodify : w.chains.modify pre.length (·.append buf buf.length) =
      pre ++ c.append buf buf.length :: post := by
    rw [hchains, List.modify_eq_take_cons_drop (by simp)]
    simp
  have hdatagrams : (pre ++ c.append buf buf.length :: post).flatMap GSOChain.datagrams =
      pre.flatMap GSOChain.datagrams ++ (c.datagrams ++ [(c.addr, buf)] ++
        post.flatMap GSOChain.datagrams) := by
    rw [List.flatMap_append, List.flatMap_cons]
    unfold GSOChain.datagrams GSOChain.append
    rw [List.map_append]
    rfl
  have hold : w.chains.flatMap GSOChain.datagrams =
      pre.flatMap GSOChain.datagrams ++ (c.datagrams ++ post.flatMap GSOChain.datagrams) := by
    rw [hchains, List.flatMap_append, List.flatMap_cons]
  have horder := h.order
  have hlength := h.length
  rw [hold] at hlength
  constructor
  · intro d hd
    dsimp only at hd
    rw [hmodify] at hd
    cases List.mem_append.mp hd with
    | inl hd => exact h.sound d (by rw [hchains]; exact List.mem_append_left _ hd)
    | inr hd =>
      cases List.mem_cons.mp hd with
      | inl heq =>
        rw [heq]
        refine (h.sound c ?_).append htakes hpos
        rw [hchains]
        exact List.mem_append_right _ List.mem_cons_self
      | inr hd =>
        refine h.sound d ?_
        rw [hchains]
        exact List.mem_append_right _ (List.mem_cons_of_mem _ hd)
  · intro a
    have ha := horder a
    dsimp only
    rw [hold] at ha
    rw [hmodify, hdatagrams, List.filter_append pending, ← ha]
    simp only [List.filter_append, List.append_assoc]
    by_cases hsame : c.addr = a
    · have hnone : (post.flatMap GSOChain.datagrams).filter (·.1 = a) = [] := by
        rw [List.filter_eq_nil_iff]
        intro q hq
        obtain ⟨d, hd, hq⟩ := List.mem_flatMap.mp hq
        obtain ⟨p, -, rfl⟩ := List.mem_map.mp hq
        rw [decide_eq_true_eq, ← hsame]
        exact hpost d hd
      rw [hnone, List.nil_append, List.append_nil]
    · have hnone : [(c.addr, buf)].filter (fun q => decide (q.1 = a)) = [] := by
        rw [List.filter_eq_nil_iff]
        intro q hq
        rw [List.mem_singleton.mp hq, decide_eq_true_eq]
        exact hsame
      rw [hnone, List.nil_append, List.append_nil]
  · intro a i hi
    obtain ⟨pre', c', post', hchains', hlen, haddr, hpost'⟩ := h.last a i hi
    have haddrs : (pre ++ c.append buf buf.length :: post).map (·.addr) =
        pre'.map (·.addr) ++ c'.addr :: post'.map (·.addr) := by
      rw [← List.map_cons (f := fun c : GSOChain Address => c.addr), ← List.map_append, ← hchains',
        hchains, List.map_append, List.map_append]
      rfl
    dsimp only
    rw [hmodify]
    obtain ⟨l₁, l₂, hsplit, hl₁, hl₂⟩ := List.map_eq_append_iff.mp haddrs
    obtain ⟨d, l₃, rfl, hd, hl₃⟩ := List.map_eq_cons_iff.mp hl₂
    refine ⟨l₁, d, l₃, hsplit, ?_, hd.trans haddr, ?_⟩
    · rw [← hlen, ← List.length_map (f := fun c : GSOChain Address => c.addr), hl₁, List.length_map]
    · intro e he
      have hmem : e.addr ∈ post'.map (·.addr) := by
        rw [← hl₃]
        exact List.mem_map_of_mem he
      obtain ⟨e', he', heq⟩ := List.mem_map.mp hmem
      rw [← heq]
      exact hpost' e' he'
  · dsimp only
    rw [hmodify, hdatagrams]
    simp only [List.length_append, List.length_singleton] at hlength ⊢
    omega
  · rw [List.length_append, h.count]
    rfl
  · rw [totalSize_concat, h.size]

/-- A packet that joins no chain starts one. -/
theorem Ready.append_none (h : w.Ready pending) (buf : Bytes) (addr : Address) :
    Ready { w with
      currSize := w.currSize + buf.length
      chains := w.chains ++ [⟨addr, [buf], 0, buf.length⟩]
      addrMap := Function.update w.addrMap addr (some w.chains.length)
      currBufs := w.currBufs + 1 } (pending ++ [(addr, buf)]) := by
  have hdatagrams : (w.chains ++ [(⟨addr, [buf], 0, buf.length⟩ : GSOChain Address)]).flatMap
      GSOChain.datagrams =
      w.chains.flatMap GSOChain.datagrams ++ [(addr, buf)] := by
    rw [List.flatMap_append]
    rfl
  constructor
  · intro c hc
    cases List.mem_append.mp hc with
    | inl hc => exact h.sound c hc
    | inr hc =>
      rw [List.mem_singleton.mp hc]
      exact ⟨fun _ => ⟨buf, rfl, rfl⟩, fun hne => absurd rfl hne⟩
  · intro a
    dsimp only
    rw [hdatagrams, List.filter_append, List.filter_append, h.order a]
  · intro a i hi
    dsimp only at hi ⊢
    by_cases ha : a = addr
    · subst ha
      rw [Function.update_self] at hi
      cases hi
      exact ⟨w.chains, _, [], rfl, rfl, rfl, fun d hd => absurd hd List.not_mem_nil⟩
    · rw [Function.update_of_ne ha] at hi
      obtain ⟨pre, c, post, hchains, hlen, haddr, hpost⟩ := h.last a i hi
      refine ⟨pre, c, post ++ [⟨addr, [buf], 0, buf.length⟩], ?_, hlen, haddr, fun d hd => ?_⟩
      · rw [hchains, List.append_assoc, List.cons_append]
      · cases List.mem_append.mp hd with
        | inl hd => exact hpost d hd
        | inr hd =>
          rw [List.mem_singleton.mp hd]
          exact fun heq => ha heq.symm
  · dsimp only
    rw [hdatagrams, List.length_append, List.length_append, h.length]
  · rw [List.length_append, h.count]
    rfl
  · rw [totalSize_concat, h.size]

end SendmmsgGSOPacketBatchWriter

/-! ### Handing over -/

/-- What is handed over has one datagram for each packet, and for each destination the packets in
order. -/
structure Hands [DecidableEq Address] (dest : Address → Address)
    (pending batch : List (Datagram Address)) : Prop where
  length : batch.length = pending.length
  order : ∀ addr, batch.filter (·.1 = addr) =
    (pending.map fun q => (dest q.1, q.2)).filter (·.1 = addr)

/-- A batch that is the packets themselves. -/
theorem Hands.of_packets [DecidableEq Address] {dest : Address → Address}
    {pending : List (Datagram Address)} {address : Address} (hdest : ∀ q ∈ pending, dest q.1 = address) :
    Hands dest pending ((pending.map (·.2)).map fun p => (address, p)) where
  length := by rw [List.length_map, List.length_map]
  order addr := by
    rw [List.map_map]
    refine congrArg (List.filter _) (List.map_congr_left fun q hq => ?_)
    exact congrArg (·, q.2) (hdest q hq).symm

namespace BatchWriter

/-- All packets have the size that is remembered. -/
def Even (size : Nat) (pending : List (Datagram Address)) : Prop :=
  (∀ q ∈ pending, q.2.length = size) ∧ (pending = [] → size = 0)

theorem cuttable_concat {size : Nat} {pending : List (Datagram Address)} {q : Datagram Address}
    (heven : Even size pending) (hpos : 0 < q.2.length) (hle : q.2.length ≤ size) :
    Pieces.Cuttable size ((pending ++ [q]).map (·.2)) := by
  rw [List.map_append]
  refine .concat (fun p hp => ?_) hpos hle
  obtain ⟨r, hr, rfl⟩ := List.mem_map.mp hp
  exact heven.1 r hr

theorem Even.concat {size : Nat} {pending : List (Datagram Address)} {q : Datagram Address}
    (heven : Even size pending) (hq : q.2.length = size) : Even size (pending ++ [q]) := by
  refine ⟨fun r hr => ?_, fun hnil => absurd hnil (by simp)⟩
  cases List.mem_append.mp hr with
  | inl hr => exact heven.1 r hr
  | inr hr => rw [List.mem_singleton.mp hr, hq]

/-! ### The writer before and after a call -/

/-- The batch maximum that was configured. -/
def maxBatch : BatchWriter Address → Nat
  | .single _ => 1
  | .gso w => w.maxBufs
  | .gsoInplace w => w.maxPackets
  | .sendmmsg w => w.maxBufs
  | .sendmmsgGSO w => w.maxBufs

/-- The writer after a write. Only the in-place writer changes. -/
def wrote (extra : Bytes) : BatchWriter Address → BatchWriter Address
  | .gsoInplace w => .gsoInplace { w with buf := extra }.reset
  | w => w

/-- What lies behind the packets in the buffer is not too long. -/
def Rest (extra : Bytes) : BatchWriter Address → Prop
  | .gsoInplace w => extra.length ≤ w.udpSendPacketLen ∨
      w.nextPacketSize ≠ 0 ∧ extra.length = w.nextPacketSize
  | _ => True

/-- Another packet may be taken. -/
def Clean (pending : List (Datagram Address)) : BatchWriter Address → Prop
  | .single _ => pending = []
  | .gso w => Even w.prevSize pending ∧ (pending.length < w.maxBufs ∨ pending.length ≤ 1)
  | .gsoInplace w => Even w.prevSize pending ∧
      (pending.length < w.maxPackets ∨ pending.length ≤ 1) ∧ (pending = [] → w.lastPacketEnd = none)
  | .sendmmsg w => pending.length < w.maxBufs
  | .sendmmsgGSO w => pending.length < w.maxBufs

variable {w : BatchWriter Address} {pending : List (Datagram Address)} {extra : Bytes}

@[simp]
theorem kind_wrote (w : BatchWriter Address) (extra : Bytes) : (w.wrote extra).kind = w.kind := by
  cases w <;> rfl

@[simp]
theorem kind_reset (w : BatchWriter Address) : w.reset.kind = w.kind := by
  cases w <;> rfl

@[simp]
theorem maxBatch_wrote (w : BatchWriter Address) (extra : Bytes) :
    (w.wrote extra).maxBatch = w.maxBatch := by
  cases w <;> rfl

@[simp]
theorem maxBatch_reset (w : BatchWriter Address) : w.reset.maxBatch = w.maxBatch := by
  cases w <;> rfl

@[simp]
theorem kind_build (w : BatchWriter Address) (packet : Bytes) : (w.build packet).kind = w.kind := by
  cases w <;> rfl

@[simp]
theorem maxBatch_build (w : BatchWriter Address) (packet : Bytes) :
    (w.build packet).maxBatch = w.maxBatch := by
  cases w <;> rfl

theorem Clean.build (h : w.Clean pending) (packet : Bytes) : (w.build packet).Clean pending := by
  cases w <;> exact h

@[simp]
theorem needsFlush_build (w : BatchWriter Address) (packet : Bytes) (size : Nat) :
    ((w.build packet).needsFlush size).2 = (w.needsFlush size).2 := by
  cases w <;> rfl

@[simp]
theorem kind_needsFlush (w : BatchWriter Address) (size : Nat) :
    (w.needsFlush size).1.kind = w.kind := by
  cases w <;> rfl

@[simp]
theorem maxBatch_needsFlush (w : BatchWriter Address) (size : Nat) :
    (w.needsFlush size).1.maxBatch = w.maxBatch := by
  cases w with
  | gsoInplace w =>
    change (w.needsFlush size).1.maxPackets = w.maxPackets
    unfold GSOInplacePacketBatchWriter.needsFlush
    dsimp only
    split <;> rfl
  | _ => rfl

theorem needsFlush_reset (w : BatchWriter Address) (size : Nat) :
    (w.reset.needsFlush size).2 = false := by
  cases w <;> rfl

/-- Only writers that hold a smaller packet are flushed first. -/
theorem needsFlush_kind {size : Nat} (h : (w.needsFlush size).2 = true) :
    w.kind = .gso ∨ w.kind = .gsoInplace := by
  cases w with
  | gso w => exact .inl rfl
  | gsoInplace w => exact .inr rfl
  | _ => cases h

theorem needsFlush_fst_of_false {size : Nat} (h : (w.needsFlush size).2 = false) :
    (w.needsFlush size).1 = w := by
  cases w with
  | gsoInplace w =>
    change BatchWriter.gsoInplace (w.needsFlush size).1 = .gsoInplace w
    change (w.needsFlush size).2 = false at h
    unfold GSOInplacePacketBatchWriter.needsFlush at h ⊢
    dsimp only at h ⊢
    rw [h]
    rfl
  | _ => rfl

/-- The packet that is too large for the batch may lie in the buffer. -/
theorem rest_of_needsFlush {size : Nat} (h : (w.needsFlush size).2 = true) (hextra : extra.length = size) :
    (w.needsFlush size).1.Rest extra := by
  cases w with
  | gsoInplace w =>
    change (w.needsFlush size).2 = true at h
    change BatchWriter.Rest extra (.gsoInplace (w.needsFlush size).1)
    unfold GSOInplacePacketBatchWriter.needsFlush at h ⊢
    dsimp only at h ⊢
    rw [h, if_pos rfl]
    right
    simp only [Bool.and_eq_true, bne_iff_ne, decide_eq_true_eq] at h
    dsimp only
    omega
  | _ => trivial

/-- A packet may join those that wait: two packets fit, and none of them is empty. -/
def CanTake (pending : List (Datagram Address)) (size : Nat) (addr : Address) :
    BatchWriter Address → Prop
  | .single _ => True
  | .gso w => pending = [] ∨ 2 ≤ w.maxBufs ∧ 0 < w.prevSize ∧ 0 < size
  | .gsoInplace w => pending = [] ∨ 2 ≤ w.maxPackets ∧ 0 < w.prevSize ∧ 0 < size
  | .sendmmsg _ => True
  | .sendmmsgGSO w => (w.joins size addr).isSome = true → 0 < size

/-- The packet completes the batch. -/
def Completes (pending : List (Datagram Address)) (size : Nat) : BatchWriter Address → Bool
  | .single _ => true
  | .gso w => !pending.isEmpty && (decide (size < w.prevSize) || pending.length + 1 == w.maxBufs)
  | .gsoInplace w =>
      !pending.isEmpty && (decide (size < w.prevSize) || pending.length + 1 == w.maxPackets)
  | .sendmmsg w => pending.length + 1 == w.maxBufs
  | .sendmmsgGSO w => pending.length + 1 == w.maxBufs

/-- An empty writer takes any packet. -/
theorem canTake_reset (w : BatchWriter Address) (size : Nat) (addr : Address) :
    w.reset.CanTake [] size addr := by
  cases w with
  | single w => trivial
  | gso w => exact .inl rfl
  | gsoInplace w => exact .inl rfl
  | sendmmsg w => trivial
  | sendmmsgGSO w =>
    intro hjoins
    cases hjoins

theorem completes_nil (h : w.kind = .gso ∨ w.kind = .gsoInplace) (size : Nat) :
    w.Completes [] size = false := by
  cases w with
  | gso w => rfl
  | gsoInplace w => rfl
  | _ => cases h <;> contradiction

@[simp]
theorem completes_build (w : BatchWriter Address) (packet : Bytes) (size : Nat) :
    (w.build packet).Completes pending size = w.Completes pending size := by
  cases w <;> rfl

theorem CanTake.build {size : Nat} {addr : Address} (h : w.CanTake pending size addr)
    (packet : Bytes) : (w.build packet).CanTake pending size addr := by
  cases w <;> exact h

/-! ### Holding packets -/

variable [DecidableEq Address]

/-- The writer holds the packets. In the buffer of the in-place writer `extra` lies behind them. -/
def Ready (pending : List (Datagram Address)) (extra : Bytes) : BatchWriter Address → Prop
  | .single w => w.buf.toList = pending.map (·.2)
  | .gso w => w.buf = pending.map (·.2) ∧ w.currBufs = pending.length ∧
      (2 ≤ pending.length → Pieces.Cuttable w.prevSize (pending.map (·.2)))
  | .gsoInplace w => w.Ready (pending.map (·.2)) extra
  | .sendmmsg w => w.bufs = pending.map (·.2) ∧ w.currSize = totalSize pending
  | .sendmmsgGSO w => w.Ready pending

/-- Empty packets alone are taken for nothing. -/
def Visible (pending : List (Datagram Address)) (w : BatchWriter Address) : Prop :=
  w.kind = .sendmmsg ∨ w.kind = .sendmmsgGSO → 0 < totalSize pending

theorem Ready.empty_eq (h : w.Ready pending extra) (hne : pending ≠ []) (hvisible : w.Visible pending) :
    w.empty = false := by
  have hpos := List.length_pos_of_ne_nil hne
  cases w with
  | single w =>
    change w.buf.isNone = false
    change w.buf.toList = pending.map (·.2) at h
    cases hbuf : w.buf with
    | none =>
      rw [hbuf] at h
      exact absurd (List.map_eq_nil_iff.mp h.symm) hne
    | some buf => rfl
  | gso w =>
    change w.buf.isEmpty = false
    rw [h.1]
    cases pending with
    | nil => exact absurd rfl hne
    | cons q rest => rfl
  | gsoInplace w =>
    change (w.numPackets == 0) = false
    rw [h.count, List.length_map]
    exact beq_false_of_ne (Nat.pos_iff_ne_zero.mp hpos)
  | sendmmsg w =>
    change (w.currSize == 0) = false
    rw [h.2]
    exact beq_false_of_ne (Nat.pos_iff_ne_zero.mp (hvisible (.inl rfl)))
  | sendmmsgGSO w =>
    change (w.currSize == 0) = false
    rw [h.size]
    exact beq_false_of_ne (Nat.pos_iff_ne_zero.mp (hvisible (.inr rfl)))

/-- Writers that hold nothing. -/
theorem Ready.empty_nil (h : w.Ready [] extra) : w.empty = true := by
  cases w with
  | single w =>
    change w.buf.isNone = true
    change w.buf.toList = [] at h
    cases hbuf : w.buf with
    | none => rfl
    | some buf =>
      rw [hbuf] at h
      cases h
  | gso w =>
    change w.buf.isEmpty = true
    rw [h.1]
    rfl
  | gsoInplace w =>
    change (w.numPackets == 0) = true
    rw [h.count]
    rfl
  | sendmmsg w =>
    change (w.currSize == 0) = true
    rw [h.2]
    rfl
  | sendmmsgGSO w =>
    change (w.currSize == 0) = true
    rw [h.size]
    rfl

/-- The address that the writer uses for a packet, if it is told to write to `address`. -/
def Aims (address : Address) (dest : Address → Address) (pending : List (Datagram Address)) :
    BatchWriter Address → Prop
  | .sendmmsgGSO _ => ∀ q ∈ pending, dest q.1 = q.1
  | _ => ∀ q ∈ pending, dest q.1 = address

section Write

variable {packets : List Bytes} (address : Address)

omit [DecidableEq Address]

theorem write_single {w : SinglePacketBatchWriter} (hbuf : w.buf.toList = packets)
    (hne : packets ≠ []) : w.write address = packets.map fun p => (address, p) := by
  unfold SinglePacketBatchWriter.write
  cases hsome : w.buf with
  | none =>
    rw [hsome] at hbuf
    exact absurd hbuf.symm hne
  | some buf =>
    rw [hsome] at hbuf
    rw [← hbuf, Option.toList_some, AsyncUDPSocket.write, List.flatten_singleton]
    rfl

/-- What lies behind the packets in the buffer stays there. -/
theorem write_gsoInplace {w : GSOInplacePacketBatchWriter} (h : w.Ready packets extra)
    (hne : packets ≠ []) (hrest : extra.length ≤ w.udpSendPacketLen ∨
      w.nextPacketSize ≠ 0 ∧ extra.length = w.nextPacketSize) :
    w.write address =
      .ok ({ w with buf := extra }.reset, packets.map fun p => (address, p)) := by
  have hlength : w.buf.length - packets.flatten.length = extra.length := by
    rw [h.buf, List.length_append]
    omega
  have hbounds : ¬ w.buf.length < packets.flatten.length := by
    rw [h.buf, List.length_append]
    omega
  have hdrop : w.buf.drop packets.flatten.length = extra := by
    rw [h.buf, List.drop_left]
  have htake : w.buf.take packets.flatten.length = packets.flatten := by
    rw [h.buf, List.take_left]
  unfold GSOInplacePacketBatchWriter.write
  rw [h.last hne]
  dsimp only
  rw [if_neg hbounds, hlength, if_pos hrest, hdrop, htake,
    AsyncUDPSocket.write_packets address (List.flatten_singleton ..) h.count hne h.cuttable]

theorem write_sendmmsg {w : SendmmsgPacketBatchWriter} (hbufs : w.bufs = packets)
    (hne : packets ≠ []) : w.write address = .ok (packets.map fun p => (address, p)) := by
  unfold SendmmsgPacketBatchWriter.write
  rw [hbufs]
  split
  · exact absurd rfl hne
  · rw [AsyncUDPSocket.write, List.flatten_singleton]
    rfl
  · rfl

end Write

/-- One datagram goes out for each packet. -/
theorem Ready.write (h : w.Ready pending extra) (hne : pending ≠ []) (hrest : w.Rest extra)
    {address : Address} {dest : Address → Address} (haims : w.Aims address dest pending) :
    ∃ batch, w.write address = .ok (w.wrote extra, batch) ∧ Hands dest pending batch := by
  have hpackets : pending.map (·.2) ≠ [] := mt List.map_eq_nil_iff.mp hne
  cases w with
  | single w =>
    refine ⟨_, rfl, ?_⟩
    rw [write_single address h hpackets]
    exact .of_packets haims
  | gso w =>
    obtain ⟨hbuf, hcount, hcut⟩ := h
    refine ⟨_, rfl, ?_⟩
    rw [← List.length_map (f := (·.2))] at hcount hcut
    unfold GSOPacketBatchWriter.write
    rw [hbuf, AsyncUDPSocket.write_packets address rfl hcount hpackets hcut]
    exact .of_packets haims
  | gsoInplace w =>
    refine ⟨(pending.map (·.2)).map fun p => (address, p), ?_, .of_packets haims⟩
    change w.write address >>= (fun r => .ok (BatchWriter.gsoInplace r.1, r.2)) = _
    rw [write_gsoInplace address h hpackets hrest]
    rfl
  | sendmmsg w =>
    refine ⟨(pending.map (·.2)).map fun p => (address, p), ?_, .of_packets haims⟩
    change w.write address >>= (fun datagrams => .ok (BatchWriter.sendmmsg w, datagrams)) = _
    rw [write_sendmmsg address h.1 hpackets]
    rfl
  | sendmmsgGSO w =>
    change w.Ready pending at h
    refine ⟨w.chains.flatMap GSOChain.datagrams, ?_, h.length, fun addr => ?_⟩
    · change w.write >>= (fun datagrams => .ok (BatchWriter.sendmmsgGSO w, datagrams)) = _
      rw [h.write hne]
      rfl
    · rw [h.order addr]
      refine congrArg (List.filter _) ?_
      refine (List.map_id pending).symm.trans (List.map_congr_left fun q hq => ?_)
      exact congrArg (·, q.2) (haims q hq).symm

/-- A writer that was made holds nothing. -/
theorem makeBatchWriter_ready {batchSize : Nat} (hsize : 1 ≤ batchSize)
    (batchingMode : QuicBatchingMode) (dataPathType : DataPathType) (udpSendPacketLen : Nat)
    (gsoSupported : Bool) {w : BatchWriter Address}
    (h : w = makeBatchWriter batchingMode batchSize dataPathType udpSendPacketLen gsoSupported) :
    w.Ready [] [] ∧ w.Clean [] ∧ 1 ≤ w.maxBatch ∧ w.maxBatch ≤ batchSize := by
  have hsingle : Ready [] [] (.single ⟨none⟩ : BatchWriter Address) ∧
      Clean [] (.single ⟨none⟩ : BatchWriter Address) ∧ 1 ≤ 1 ∧ 1 ≤ batchSize :=
    ⟨rfl, rfl, Nat.le_refl 1, hsize⟩
  have hsendmmsg : Ready [] [] (.sendmmsg ⟨batchSize, [], 0⟩ : BatchWriter Address) ∧
      Clean [] (.sendmmsg ⟨batchSize, [], 0⟩ : BatchWriter Address) ∧
        1 ≤ batchSize ∧ batchSize ≤ batchSize :=
    ⟨⟨rfl, rfl⟩, hsize, hsize, Nat.le_refl _⟩
  subst h
  cases batchingMode with
  | none => exact hsingle
  | gso =>
    cases gsoSupported with
    | false => exact hsingle
    | true =>
      cases dataPathType with
      | chainedMemory =>
        exact ⟨⟨rfl, rfl, fun h => absurd h (by simp)⟩,
          ⟨⟨fun q hq => absurd hq List.not_mem_nil, fun _ => rfl⟩, .inr (Nat.zero_le _)⟩,
          hsize, Nat.le_refl _⟩
      | continuousMemory =>
        exact ⟨⟨rfl, fun h => absurd rfl h, rfl, fun h => absurd h (by simp)⟩,
          ⟨⟨fun q hq => absurd hq List.not_mem_nil, fun _ => rfl⟩, .inr (Nat.zero_le _),
            fun _ => rfl⟩, hsize, Nat.le_refl _⟩
  | sendmmsg => exact hsendmmsg
  | sendmmsgGSO =>
    cases gsoSupported with
    | false => exact hsendmmsg
    | true => exact ⟨.reset _, hsize, hsize, Nat.le_refl _⟩

/-- Without packets a writer is as good as new. -/
theorem ready_reset (w : BatchWriter Address) (hextra : w.Ready pending extra) (hmax : 1 ≤ w.maxBatch) :
    (w.wrote extra).reset.Ready [] extra ∧ (w.wrote extra).reset.Clean [] := by
  cases w with
  | single w => exact ⟨rfl, rfl⟩
  | gso w => exact ⟨⟨rfl, rfl, fun h => absurd h (by simp)⟩,
      ⟨fun q hq => absurd hq List.not_mem_nil, fun _ => rfl⟩, .inr (Nat.zero_le _)⟩
  | gsoInplace w =>
    exact ⟨⟨rfl, fun h => absurd rfl h, rfl, fun h => absurd h (by simp)⟩,
      ⟨fun q hq => absurd hq List.not_mem_nil, fun _ => rfl⟩, .inr (Nat.zero_le _), fun _ => rfl⟩
  | sendmmsg w => exact ⟨⟨rfl, rfl⟩, hmax⟩
  | sendmmsgGSO w => exact ⟨.reset _, hmax⟩

/-! ### Taking a packet -/

/-- What a writer is after it has taken a packet. -/
structure Took (w : BatchWriter Address) (pending : List (Datagram Address)) (q : Datagram Address)
    (w' : BatchWriter Address) : Prop where
  ready : w'.Ready (pending ++ [q]) []
  clean : w.Completes pending q.2.length = false → w'.Clean (pending ++ [q])
  kind : w'.kind = w.kind
  maxBatch : w'.maxBatch = w.maxBatch
  length : (pending ++ [q]).length ≤ w.maxBatch

theorem Ready.build (h : w.Ready pending []) (packet : Bytes) :
    (w.build packet).Ready pending packet := by
  cases w with
  | gsoInplace w =>
    change w.Ready (pending.map (·.2)) [] at h
    refine ⟨?_, h.last, h.count, h.cuttable⟩
    change w.buf ++ packet = _
    rw [h.buf, List.append_nil]
  | _ => exact h

theorem Ready.needsFlush (h : w.Ready pending extra) (size : Nat) :
    (w.needsFlush size).1.Ready pending extra := by
  cases w with
  | gsoInplace w =>
    change w.Ready (pending.map (·.2)) extra at h
    change (w.needsFlush size).1.Ready (pending.map (·.2)) extra
    unfold GSOInplacePacketBatchWriter.needsFlush
    dsimp only
    split
    · exact ⟨h.buf, h.last, h.count, h.cuttable⟩
    · exact h
  | _ => exact h

theorem Ready.append_gso {w : GSOPacketBatchWriter} {q : Datagram Address}
    (h : Ready pending extra (.gso w)) (hclean : Clean pending (.gso w)) (hmax : 1 ≤ w.maxBufs)
    (hneeds : w.needsFlush q.2.length = false) (htake : CanTake pending q.2.length q.1 (.gso w)) :
    ∃ w', w.append q.2 q.2.length = .ok (w', Completes pending q.2.length (.gso w)) ∧
      Took (.gso w) pending q (.gso w') := by
  obtain ⟨hbuf, hcount, -⟩ := h
  obtain ⟨heven, hroom⟩ := hclean
  unfold GSOPacketBatchWriter.append
  by_cases hnil : pending = []
  · subst hnil
    have hempty : w.buf.isEmpty = true := by
      rw [hbuf]
      rfl
    rw [if_pos hempty]
    refine ⟨_, rfl, ⟨rfl, rfl, fun h => absurd h (by simp)⟩, fun _ => ⟨⟨?_, ?_⟩, .inr (by simp)⟩,
      rfl, rfl, hmax⟩
    · intro r hr
      rw [List.mem_singleton.mp hr]
    · exact fun h => absurd h (by simp)
  · obtain ⟨htwo, hprev, hsize⟩ := htake.resolve_left hnil
    have hpos := List.length_pos_of_ne_nil hnil
    have hnonempty : ¬ w.buf.isEmpty = true := by
      rw [hbuf, List.isEmpty_iff]
      exact mt List.map_eq_nil_iff.mp hnil
    have hle : q.2.length ≤ w.prevSize := by
      unfold GSOPacketBatchWriter.needsFlush at hneeds
      simp only [Bool.and_eq_false_iff, bne_eq_false_iff_eq, decide_eq_false_iff_not] at hneeds
      omega
    have hempty : pending.isEmpty = false := by
      rw [Bool.eq_false_iff, ne_eq, List.isEmpty_iff]
      exact hnil
    have hready : ∀ w' : GSOPacketBatchWriter, w'.buf = w.buf ++ [q.2] →
        w'.currBufs = w.currBufs + 1 → w'.prevSize = w.prevSize →
        Ready (pending ++ [q]) [] (.gso w' : BatchWriter Address) := by
      intro w' h1 h2 h3
      refine ⟨?_, ?_, fun _ => ?_⟩
      · rw [h1, hbuf, List.map_append]
        rfl
      · rw [h2, hcount, List.length_append]
        rfl
      · rw [h3]
        exact cuttable_concat heven hsize hle
    have hlength : (pending ++ [q]).length ≤ w.maxBufs := by
      rw [List.length_append, List.length_singleton]
      omega
    rw [if_neg hnonempty]
    dsimp only [Completes]
    rw [hempty]
    by_cases hne : q.2.length ≠ w.prevSize
    · have hlt : q.2.length < w.prevSize := by omega
      rw [if_pos hne, if_pos hlt, decide_eq_true hlt]
      refine ⟨_, rfl, hready _ rfl rfl rfl, fun hfalse => ?_, rfl, rfl, hlength⟩
      dsimp only [Completes] at hfalse
      rw [hempty, decide_eq_true hlt] at hfalse
      cases hfalse
    · have heq : q.2.length = w.prevSize := Decidable.not_not.mp hne
      have hlt : ¬ q.2.length < w.prevSize := by omega
      rw [if_neg hne, decide_eq_false hlt, ← hcount]
      refine ⟨_, rfl, hready _ rfl rfl rfl, fun hfalse => ?_, rfl, rfl, hlength⟩
      dsimp only [Completes] at hfalse
      rw [hempty, decide_eq_false hlt] at hfalse
      refine ⟨heven.concat heq, .inl ?_⟩
      have hother : pending.length + 1 ≠ w.maxBufs := by simpa using hfalse
      rw [List.length_append, List.length_singleton] at hlength ⊢
      dsimp only
      omega

theorem Ready.append_gsoInplace {w : GSOInplacePacketBatchWriter} {q : Datagram Address}
    (h : Ready pending q.2 (.gsoInplace w)) (hclean : Clean pending (.gsoInplace w))
    (hmax : 1 ≤ w.maxPackets) (hneeds : (w.needsFlush q.2.length).2 = false)
    (htake : CanTake pending q.2.length q.1 (.gsoInplace w)) :
    ∃ w', w.append q.2.length = .ok (w', Completes pending q.2.length (.gsoInplace w)) ∧
      Took (.gsoInplace w) pending q (.gsoInplace w') := by
  change w.Ready (pending.map (·.2)) q.2 at h
  obtain ⟨hbuf, hlast, hcount, -⟩ := h
  obtain ⟨heven, hroom, hnone⟩ := hclean
  rw [List.length_map] at hcount
  have hjoined : w.buf = ((pending ++ [q]).map (·.2)).flatten := by
    rw [hbuf, List.map_append, List.flatten_append]
    simp
  unfold GSOInplacePacketBatchWriter.append
  rw [hneeds, if_neg (by decide)]
  by_cases hnil : pending = []
  · subst hnil
    rw [hnone rfl]
    dsimp only
    rw [if_pos ⟨heven.2 rfl, hcount⟩]
    refine ⟨_, rfl, ⟨?_, fun _ => ?_, rfl, fun h => absurd h (by simp)⟩,
      fun _ => ⟨⟨?_, ?_⟩, .inr (by simp), ?_⟩, rfl, rfl, hmax⟩
    · rw [List.append_nil]
      exact hjoined
    · dsimp only
      rw [hjoined]
    · intro r hr
      rw [List.mem_singleton.mp hr]
    · exact fun h => absurd h (by simp)
    · exact fun h => absurd h (by simp)
  · obtain ⟨htwo, hprev, hsize⟩ := htake.resolve_left hnil
    have hpos := List.length_pos_of_ne_nil hnil
    have hle : q.2.length ≤ w.prevSize := by
      unfold GSOInplacePacketBatchWriter.needsFlush at hneeds
      simp only [Bool.and_eq_false_iff, bne_eq_false_iff_eq, decide_eq_false_iff_not] at hneeds
      omega
    have hempty : pending.isEmpty = false := by
      rw [Bool.eq_false_iff, ne_eq, List.isEmpty_iff]
      exact hnil
    have hlength : (pending ++ [q]).length ≤ w.maxPackets := by
      rw [List.length_append, List.length_singleton]
      omega
    rw [hlast (mt List.map_eq_nil_iff.mp hnil)]
    dsimp only [Completes]
    rw [if_pos ⟨Nat.pos_iff_ne_zero.mp hprev, hle⟩, hempty, hcount]
    refine ⟨_, rfl, ⟨?_, fun _ => ?_, ?_, fun _ => ?_⟩, fun hfalse => ⟨?_, ?_, ?_⟩, rfl, rfl, hlength⟩
    · rw [List.append_nil]
      exact hjoined
    · dsimp only
      rw [hjoined]
    · rw [List.length_map, List.length_append]
      rfl
    · exact cuttable_concat heven hsize hle
    · dsimp only [Completes] at hfalse
      rw [hempty] at hfalse
      simp only [Bool.not_false, Bool.true_and, Bool.or_eq_false_iff, decide_eq_false_iff_not]
        at hfalse
      exact heven.concat (by omega)
    · dsimp only [Completes] at hfalse
      rw [hempty] at hfalse
      simp only [Bool.not_false, Bool.true_and, Bool.or_eq_false_iff, beq_eq_false_iff_ne] at hfalse
      left
      rw [List.length_append, List.length_singleton] at hlength ⊢
      dsimp only
      omega
    · exact fun h => absurd h (by simp)

theorem Ready.append_sendmmsg {w : SendmmsgPacketBatchWriter} {q : Datagram Address}
    (h : Ready pending extra (.sendmmsg w)) (hclean : Clean pending (.sendmmsg w)) :
    ∃ w', w.append q.2 q.2.length = .ok (w', Completes pending q.2.length (.sendmmsg w)) ∧
      Took (.sendmmsg w) pending q (.sendmmsg w') := by
  obtain ⟨hbufs, hsize⟩ := h
  change pending.length < w.maxBufs at hclean
  have hroom : w.bufs.length < w.maxBufs := by
    rw [hbufs, List.length_map]
    exact hclean
  have hlength : (pending ++ [q]).length = pending.length + 1 := by
    rw [List.length_append]
    rfl
  refine ⟨{ w with bufs := w.bufs ++ [q.2], currSize := w.currSize + q.2.length }, ?_, ⟨?_, ?_⟩,
    fun hfalse => ?_, rfl, rfl, hlength.le.trans hclean⟩
  · unfold SendmmsgPacketBatchWriter.append
    rw [if_pos hroom]
    dsimp only
    rw [List.length_append, hbufs, List.length_map]
    rfl
  · rw [hbufs, List.map_append]
    rfl
  · rw [totalSize_concat, hsize]
  · have hother : pending.length + 1 ≠ w.maxBufs := by simpa [Completes] using hfalse
    change (pending ++ [q]).length < w.maxBufs
    omega

theorem Ready.append_sendmmsgGSO {w : SendmmsgGSOPacketBatchWriter Address} {q : Datagram Address}
    (h : Ready pending extra (.sendmmsgGSO w)) (hclean : Clean pending (.sendmmsgGSO w))
    (htake : CanTake pending q.2.length q.1 (.sendmmsgGSO w)) :
    (w.append q.2 q.2.length q.1).2 = Completes pending q.2.length (.sendmmsgGSO w) ∧
      Took (.sendmmsgGSO w) pending q (.sendmmsgGSO (w.append q.2 q.2.length q.1).1) := by
  change w.Ready pending at h
  change pending.length < w.maxBufs at hclean
  have hlength : (pending ++ [q]).length = pending.length + 1 := by
    rw [List.length_append]
    rfl
  have hmaxBufs : (w.append q.2 q.2.length q.1).1.maxBufs = w.maxBufs := by
    unfold SendmmsgGSOPacketBatchWriter.append
    dsimp only
    split <;> rfl
  refine ⟨?_, ?_, fun hfalse => ?_, rfl, hmaxBufs, hlength.le.trans hclean⟩
  · unfold SendmmsgGSOPacketBatchWriter.append
    rw [h.count]
    dsimp only
    split <;> rfl
  · change (w.append q.2 q.2.length q.1).1.Ready (pending ++ [q])
    unfold SendmmsgGSOPacketBatchWriter.append
    dsimp only
    split
    · next idx hjoins => exact h.append_some hjoins (htake (by rw [hjoins]; rfl))
    · exact h.append_none q.2 q.1
  · have hother : pending.length + 1 ≠ w.maxBufs := by simpa [Completes] using hfalse
    change (pending ++ [q]).length < (w.append q.2 q.2.length q.1).1.maxBufs
    omega

/-- A packet is taken. -/
theorem Ready.append {q : Datagram Address} (h : w.Ready pending q.2) (hclean : w.Clean pending)
    (hmax : 1 ≤ w.maxBatch) (hneeds : (w.needsFlush q.2.length).2 = false)
    (htake : w.CanTake pending q.2.length q.1) :
    ∃ w', w.append q.2 q.2.length q.1 = .ok (w', w.Completes pending q.2.length) ∧
      w.Took pending q w' := by
  cases w with
  | single w =>
    change pending = [] at hclean
    subst hclean
    exact ⟨_, rfl, rfl, fun hfalse => absurd hfalse (by simp [Completes]), rfl, rfl, Nat.le_refl _⟩
  | gso w =>
    obtain ⟨w', happend, htook⟩ := Ready.append_gso h hclean hmax hneeds htake
    refine ⟨.gso w', ?_, htook⟩
    change w.append q.2 q.2.length >>= (fun r => .ok (BatchWriter.gso r.1, r.2)) = _
    rw [happend]
    rfl
  | gsoInplace w =>
    obtain ⟨w', happend, htook⟩ := Ready.append_gsoInplace h hclean hmax hneeds htake
    refine ⟨.gsoInplace w', ?_, htook⟩
    change w.append q.2.length >>= (fun r => .ok (BatchWriter.gsoInplace r.1, r.2)) = _
    rw [happend]
    rfl
  | sendmmsg w =>
    obtain ⟨w', happend, htook⟩ := Ready.append_sendmmsg h hclean
    refine ⟨.sendmmsg w', ?_, htook⟩
    change w.append q.2 q.2.length >>= (fun r => .ok (BatchWriter.sendmmsg r.1, r.2)) = _
    rw [happend]
    rfl
  | sendmmsgGSO w =>
    obtain ⟨hflush, htook⟩ := Ready.append_sendmmsgGSO h hclean htake
    refine ⟨.sendmmsgGSO (w.append q.2 q.2.length q.1).1, ?_, htook⟩
    change Except.ok (_, _) = Except.ok (_, _)
    rw [hflush]

end BatchWriter

end MasqueQuic
