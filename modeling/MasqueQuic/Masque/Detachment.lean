/-
Detached transactions.

`Safe` says that no closure has called `sendDatagram` on a detached transaction and that no tun
address leads to one. Nothing in the program takes a callback out of the map, closes a socket or
removes a closure from a queue. `detached_unreachable_iff` says which runs stay safe nevertheless,
whatever of the queues is run after them.
-/

import MasqueQuic.Masque.Callbacks
import MasqueQuic.Masque.Sessions

namespace MasqueQuic

namespace Proxy

variable {κ β : Type} {platform : ProxyPlatform κ β} {s s' : Proxy κ} {transaction : κ}

/-- An address of the tun device leads to the transaction. -/
def HasAddress (s : Proxy κ) (transaction : κ) : Prop :=
  ∃ entry ∈ s.tunDevice.streamMap, entry.2 = transaction

structure Safe (s : Proxy κ) : Prop where
  calls : ∀ call ∈ s.calls, call.detached = false
  routes : ∀ transaction ∈ s.detached, ¬ s.HasAddress transaction

/-- A state in which no queue holds a closure of a detached transaction either. -/
structure Settled (s : Proxy κ) : Prop extends Safe s where
  queued : ∀ closure ∈ s.queue, closure.transaction ∉ s.detached

/-! ### What the steps leave -/

/-- What a registration adds to the map. -/
theorem mem_streamMap_register {plus : IPAddressV4 → Nat → IPAddressV4} {tun tun' : SharedTun κ}
    {ip : IPAddressV4} (h : tun.registerTransaction plus transaction = .ok (ip, tun'))
    {entry : Nat × κ} (hentry : entry ∈ tun'.streamMap) :
    entry ∈ tun.streamMap ∨ entry.2 = transaction := by
  unfold SharedTun.registerTransaction at h
  dsimp only at h
  rw [except_bind_eq_ok] at h
  obtain ⟨_, -, h⟩ := h
  cases h
  unfold SharedTun.insert at hentry
  split at hentry
  · exact .inl hentry
  · rcases List.mem_append.mp hentry with hentry | hentry
    · exact .inl hentry
    · rw [List.mem_singleton.mp hentry]
      exact .inr rfl

/-- The packet goes to a callback of the map. -/
theorem hasAddress_of_callbackFor {dstIP : Option Nat}
    (h : s.tunDevice.callbackFor dstIP = some transaction) : s.HasAddress transaction := by
  obtain ⟨ip, -, hlookup⟩ := Option.bind_eq_some_iff.mp h
  obtain ⟨before, after, hmap, -⟩ := List.lookup_eq_some_iff.mp hlookup
  refine ⟨(ip, transaction), ?_, rfl⟩
  rw [hmap]
  exact List.mem_append_right before List.mem_cons_self

theorem Settled.forward (h : s.Settled) (hattached : transaction ∉ s.detached) (payload : Bytes) :
    (s.forward platform transaction payload).Settled := by
  constructor
  · exact ⟨h.calls, h.routes⟩
  · intro closure hclosure
    rcases List.mem_append.mp hclosure with hclosure | hclosure
    · exact h.queued closure hclosure
    · rw [List.mem_singleton.mp hclosure]
      exact hattached

section

variable [DecidableEq κ] [DecidableEq β]

/-- The condition on an event: a transaction is detached only when it has no address and no closure
of it is queued, and no UDP datagram arrives for one that is detached. -/
def Quiet (s : Proxy κ) : ProxyEvent κ β → Prop
  | .detachTransaction transaction => transaction ∈ s.attached →
      ¬ s.HasAddress transaction ∧ ∀ closure ∈ s.queue, closure.transaction ≠ transaction
  | .udpDatagram transaction _ => (s.sockets.lookup transaction).isSome →
      transaction ∉ s.detached
  | _ => True

instance (s : Proxy κ) (transaction : κ) : Decidable (s.HasAddress transaction) :=
  inferInstanceAs (Decidable (∃ entry ∈ s.tunDevice.streamMap, entry.2 = transaction))

instance (s : Proxy κ) (event : ProxyEvent κ β) : Decidable (s.Quiet event) := by
  cases event <;> unfold Quiet <;> infer_instance

theorem Settled.runClosure (h : s.Settled) (base : β) : (s.runClosure platform base).Settled := by
  unfold Proxy.runClosure
  split
  · exact h
  · next closure hfind =>
    have hclosure := h.queued closure (List.mem_of_find?_eq_some hfind)
    refine ⟨⟨?_, h.routes⟩, ?_⟩
    · intro call hcall
      rcases List.mem_append.mp hcall with hcall | hcall
      · exact h.calls call hcall
      · rw [List.mem_singleton.mp hcall]
        exact decide_eq_false hclosure
    · intro other hother
      exact h.queued other (List.mem_of_mem_eraseP hother)

theorem Settled.detachTransaction (h : s.Settled) (haddress : ¬ s.HasAddress transaction)
    (hqueue : ∀ closure ∈ s.queue, closure.transaction ≠ transaction) :
    (s.detachTransaction transaction).Settled := by
  refine ⟨⟨h.calls, ?_⟩, ?_⟩
  · intro other hother
    rcases List.mem_append.mp hother with hother | hother
    · exact h.routes other hother
    · rw [List.mem_singleton.mp hother]
      exact haddress
  · intro closure hclosure hdetached
    rcases List.mem_append.mp hdetached with hdetached | hdetached
    · exact h.queued closure hclosure hdetached
    · exact hqueue closure hclosure (List.mem_singleton.mp hdetached)

/-- An event that meets the condition leaves a settled state. -/
theorem Settled.step (h : s.Settled) {event : ProxyEvent κ β} (hquiet : s.Quiet event)
    (hstep : s.step platform event = .ok s') : s'.Settled := by
  cases event with
  | acceptUDP transaction storage =>
    dsimp only [Proxy.step] at hstep
    split at hstep
    · cases hstep
    · cases hstep
      exact ⟨⟨h.calls, h.routes⟩, h.queued⟩
  | acceptIP transaction =>
    dsimp only [Proxy.step] at hstep
    split at hstep
    · cases hstep
    · next hnew =>
      split at hstep
      · cases hstep
      · next s'' haccept =>
        cases hstep
        obtain ⟨ip, tunDevice, hregister, rfl⟩ := acceptIP_spec haccept
        refine ⟨⟨h.calls, ?_⟩, h.queued⟩
        rintro other hother ⟨entry, hentry, rfl⟩
        rcases mem_streamMap_register hregister hentry with hentry | hentry
        · exact h.routes entry.2 hother ⟨entry, hentry, rfl⟩
        · rw [hentry] at hother
          exact hnew (.inr hother)
  | onEOM transaction =>
    dsimp only [Proxy.step] at hstep
    split at hstep
    · cases hstep
      exact h
    · cases hstep
  | onError transaction =>
    dsimp only [Proxy.step] at hstep
    split at hstep
    · cases hstep
      exact h
    · cases hstep
  | detachTransaction transaction =>
    dsimp only [Proxy.step] at hstep
    split at hstep
    · next hattached =>
      cases hstep
      obtain ⟨haddress, hqueue⟩ := hquiet hattached
      exact h.detachTransaction haddress hqueue
    · cases hstep
  | udpDatagram transaction payload =>
    dsimp only [Proxy.step] at hstep
    cases hsocket : s.sockets.lookup transaction with
    | none =>
      unfold Proxy.udpDatagram at hstep
      rw [hsocket] at hstep
      cases hstep
    | some buffer =>
      rw [udpDatagram_of_lookup hsocket] at hstep
      cases hstep
      have hattached : transaction ∉ s.detached := by
        apply hquiet
        rw [hsocket]
        rfl
      have harrived : ((s.setBuffer transaction (buffer.read payload)).arrive transaction
          payload).Settled := ⟨⟨h.calls, h.routes⟩, h.queued⟩
      exact harrived.forward hattached _
  | tunPacket packet =>
    cases hstep
    unfold Proxy.tunPacket
    split
    · exact h
    · next transaction hcallback =>
      have hattached : transaction ∉ s.detached := by
        intro hdetached
        exact h.routes transaction hdetached (hasAddress_of_callbackFor hcallback)
      have harrived : (s.arrive transaction packet).Settled :=
        ⟨⟨h.calls, h.routes⟩, h.queued⟩
      exact harrived.forward hattached packet
  | runClosure base =>
    cases hstep
    exact h.runClosure base

/-- An event that does not meet it happens, and leaves a state that is not settled. -/
theorem not_settled_of_not_quiet {event : ProxyEvent κ β} (hquiet : ¬ s.Quiet event) :
    ∃ s', s.step platform event = .ok s' ∧ ¬ s'.Settled := by
  cases event with
  | acceptUDP transaction storage => exact absurd trivial hquiet
  | acceptIP transaction => exact absurd trivial hquiet
  | onEOM transaction => exact absurd trivial hquiet
  | onError transaction => exact absurd trivial hquiet
  | tunPacket packet => exact absurd trivial hquiet
  | runClosure base => exact absurd trivial hquiet
  | detachTransaction transaction =>
    unfold Quiet at hquiet
    rw [Classical.not_imp] at hquiet
    obtain ⟨hattached, hquiet⟩ := hquiet
    refine ⟨s.detachTransaction transaction, if_pos hattached, ?_⟩
    intro h
    have hdetached : transaction ∈ (s.detachTransaction transaction).detached :=
      List.mem_append_right _ List.mem_cons_self
    apply hquiet
    constructor
    · exact h.routes transaction hdetached
    · rintro closure hclosure rfl
      exact h.queued closure hclosure hdetached
  | udpDatagram transaction payload =>
    unfold Quiet at hquiet
    rw [Classical.not_imp, not_not] at hquiet
    obtain ⟨hsome, hdetached⟩ := hquiet
    obtain ⟨buffer, hsocket⟩ := Option.isSome_iff_exists.mp hsome
    dsimp only [Proxy.step]
    rw [udpDatagram_of_lookup hsocket]
    refine ⟨_, rfl, ?_⟩
    intro h
    exact h.queued _ (List.mem_append_right _ List.mem_cons_self) hdetached

/-! ### What is left in the queues -/

/-- Whatever of the queues is run, the state stays safe: that is to say that it is settled. -/
theorem settled_iff (platform : ProxyPlatform κ β) :
    s.Settled ↔ ∀ (turns : List β) s',
      (turns.map ProxyEvent.runClosure).foldlM (Proxy.step platform) s = .ok s' → s'.Safe := by
  constructor
  · intro h turns s' hrun
    have hturns : ∀ event ∈ turns.map (ProxyEvent.runClosure : β → ProxyEvent κ β),
        ∃ base, event = .runClosure base := by
      intro event hevent
      obtain ⟨base, -, rfl⟩ := List.mem_map.mp hevent
      exact ⟨base, rfl⟩
    have hsettled : s'.Settled := by
      refine run_invariant_on ?_ h hturns hrun
      rintro s event s' ⟨base, rfl⟩ h hstep
      have hquiet : s.Quiet (.runClosure base : ProxyEvent κ β) := trivial
      exact h.step hquiet hstep
    exact hsettled.toSafe
  · intro h
    refine ⟨h [] s rfl, ?_⟩
    intro closure hclosure
    have hsafe := h _ _ (run_queue platform s)
    have hcall := hsafe.calls (s.call closure)
      (List.mem_append_right _ (List.mem_map_of_mem hclosure))
    exact of_decide_eq_false hcall

end

end Proxy

/-- In every run over any transactions, and whatever of the queues is run after it: no closure
calls `sendDatagram` on a detached transaction and no tun address leads to one, if and only if
every transaction is detached when it has no address and none of its closures is queued, and no UDP
datagram arrives for it after that. -/
theorem detached_unreachable_iff {κ β : Type} [DecidableEq κ] [DecidableEq β]
    (platform : ProxyPlatform κ β) (subnet : Subnet) (events : List (ProxyEvent κ β)) :
    (∀ fs (turns : List β) s, fs <+: events →
      (fs ++ turns.map ProxyEvent.runClosure).foldlM (Proxy.step platform) (.ofSubnet subnet) =
        .ok s → s.Safe) ↔
      Meets (Proxy.step platform) Proxy.Quiet (.ofSubnet subnet) events := by
  have hstart : (Proxy.ofSubnet subnet : Proxy κ).Settled :=
    ⟨⟨by simp [Proxy.ofSubnet], by simp [Proxy.ofSubnet]⟩, by simp [Proxy.ofSubnet]⟩
  have hnever : (∀ fs s, fs <+: events →
      fs.foldlM (Proxy.step platform) (.ofSubnet subnet) = .ok s → s.Settled) ↔
      Meets (Proxy.step platform) Proxy.Quiet (.ofSubnet subnet) events := by
    refine @never_bad_iff_meets _ _ _ (Proxy.step platform) Proxy.Quiet (fun _ => True)
      Proxy.Settled ?_ ?_ ?_ _ _ trivial hstart
    · exact fun _ _ _ _ _ => trivial
    · exact fun s event s' _ h hquiet hstep => h.step hquiet hstep
    · exact fun s event _ _ hquiet => Proxy.not_settled_of_not_quiet hquiet
  rw [← hnever]
  constructor
  · intro h fs s hfs hrun
    rw [Proxy.settled_iff platform]
    intro turns s' hturns
    apply h fs turns s' hfs
    rw [List.foldlM_append, except_bind_eq_ok]
    exact ⟨s, hrun, hturns⟩
  · intro h fs turns s' hfs hrun
    rw [List.foldlM_append, except_bind_eq_ok] at hrun
    obtain ⟨s, hrun, hturns⟩ := hrun
    exact (Proxy.settled_iff platform).mp (h fs s hfs hrun) turns s' hturns

/-- A datagram of the target is still queued when the transaction is detached. -/
theorem detached_called :
    ∃ s, ([.acceptUDP 0 .zero, .udpDatagram 0 [7], .detachTransaction 0, .runClosure ()] :
        List (ProxyEvent Nat Unit)).foldlM (Proxy.step .sample) (.ofSubnet .default) = .ok s ∧
      s.calls = [⟨0, [0, 7], true⟩] ∧ ¬ s.Safe := by
  refine ⟨_, rfl, by decide +kernel, ?_⟩
  intro h
  have hcall := h.calls ⟨0, [0, 7], true⟩ (by decide +kernel)
  cases hcall

end MasqueQuic
