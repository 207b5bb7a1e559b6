/-
The events of one transaction handler, in any order.

A handler hears from its transaction (`onHeadersComplete`, `onDatagram`, `onBody`,
`onEOM`, `onUpgrade`, `onError`) and from the socket (`resumeRead`, `pauseRead`).
`closeRead`, `onDatagram` and `onBody` look at the callback pointer before they use
it; `closeWithError` does not. So a run calls a null pointer exactly when an error
or an upgrade comes while no callback is installed.

`HandlerRun` adds the callbacks installed so far. Each `onReadClosed` takes the
callback it goes to out of the handler first, which is why there are never more of
them than installations.
-/

import MasqueQuic.Lib.Run
import MasqueQuic.Transport.H3DatagramAsyncSocket

namespace MasqueQuic

inductive HandlerEvent where
  | onHeadersComplete (statusCode : Nat)
  | onDatagram (datagram : IOBuf)
  | onBody (body : IOBuf)
  | onEOM
  | onUpgrade
  | onError
  | resumeRead (cob : Option ReadCallback)
  | pauseRead

namespace TransactionHandler

def handle (rcvBufPkts : Nat) (h : TransactionHandler) :
    HandlerEvent → Except Fault TransactionHandler
  | .onHeadersComplete statusCode => .ok (h.onHeadersComplete statusCode)
  | .onDatagram datagram => h.onDatagram rcvBufPkts datagram
  | .onBody body => .ok (h.onBody body)
  | .onEOM => .ok h.onEOM
  | .onUpgrade => h.onUpgrade
  | .onError => h.onError
  | .resumeRead cob => h.setReadCallback cob
  | .pauseRead => .ok h.pauseRead

/-- How often a callback was told that reading is closed. -/
def closed (h : TransactionHandler) (callback : ReadCallback) : Nat :=
  h.calls.count (.onReadClosed callback)

/-- 1 for the callback that is installed now. -/
def current (h : TransactionHandler) (callback : ReadCallback) : Nat :=
  if h.readCallback = some callback then 1 else 0

end TransactionHandler

/-- A handler and the callbacks installed in it so far. -/
structure HandlerRun where
  handler : TransactionHandler
  installed : List ReadCallback

namespace HandlerRun

def start : HandlerRun := ⟨.new, []⟩

/-- The callback that an event installs. -/
def installs : HandlerEvent → List ReadCallback
  | .resumeRead (some callback) => [callback]
  | _ => []

def step (rcvBufPkts : Nat) (r : HandlerRun) (event : HandlerEvent) : Except Fault HandlerRun := do
  let handler ← r.handler.handle rcvBufPkts event
  return ⟨handler, r.installed ++ installs event⟩

/-- Errors and upgrades come while a callback is installed. -/
def HasCallback (r : HandlerRun) : HandlerEvent → Prop
  | .onUpgrade => r.handler.readCallback.isSome
  | .onError => r.handler.readCallback.isSome
  | _ => True

/-- Every installation of a callback accounts for at most one `onReadClosed`. -/
def ClosedOnce (r : HandlerRun) : Prop :=
  ∀ callback, r.handler.closed callback ≤ r.installed.count callback

end HandlerRun

/-! ### What an event does to the callback and to the calls -/

namespace TransactionHandler

variable {h h' : TransactionHandler} {rcvBufPkts : Nat}

/-- Calls of another kind do not count. -/
theorem closed_append_of_notMem {callback : ReadCallback} (calls : List HandlerCall)
    (hnot : .onReadClosed callback ∉ calls) :
    closed { h with calls := h.calls ++ calls } callback = h.closed callback := by
  rw [closed, List.count_append, List.count_eq_zero_of_not_mem hnot, Nat.add_zero]
  rfl

theorem deliverDatagram_keeps {datagram : IOBuf} (hrun : h.deliverDatagram datagram = .ok h') :
    h'.readCallback = h.readCallback ∧ ∀ callback, h'.closed callback = h.closed callback := by
  unfold deliverDatagram at hrun
  split at hrun
  · cases hrun
  · split at hrun
    · cases hrun
      exact ⟨rfl, fun _ => rfl⟩
    · cases hrun
      exact ⟨rfl, fun callback => closed_append_of_notMem _ (by simp)⟩

theorem foldlM_deliverDatagram_keeps {datagrams : List IOBuf}
    (hrun : datagrams.foldlM deliverDatagram h = .ok h') :
    h'.readCallback = h.readCallback ∧ ∀ callback, h'.closed callback = h.closed callback := by
  refine @run_invariant _ _ _ _ (fun u : TransactionHandler =>
    u.readCallback = h.readCallback ∧ ∀ callback, u.closed callback = h.closed callback)
    ?_ _ _ _ ⟨rfl, fun _ => rfl⟩ hrun
  intro u datagram u' hu hstep
  obtain ⟨hcallback, hclosed⟩ := deliverDatagram_keeps hstep
  exact ⟨hcallback.trans hu.1, fun callback => (hclosed callback).trans (hu.2 callback)⟩

theorem deliverBodies_keeps (h : TransactionHandler) :
    h.deliverBodies.readCallback = h.readCallback ∧
      ∀ callback, h.deliverBodies.closed callback = h.closed callback := by
  unfold deliverBodies
  split
  · split
    · exact ⟨rfl, fun callback => closed_append_of_notMem _ (by simp)⟩
    · exact ⟨rfl, fun _ => rfl⟩
  · exact ⟨rfl, fun _ => rfl⟩

theorem setReadCallback_keeps {cob : Option ReadCallback} (hrun : h.setReadCallback cob = .ok h') :
    h'.readCallback = cob ∧ ∀ callback, h'.closed callback = h.closed callback := by
  rw [setReadCallback, deliverDatagrams, except_bind_eq_ok] at hrun
  obtain ⟨u, hfold, hu⟩ := hrun
  cases hu
  obtain ⟨hcallback, hclosed⟩ := foldlM_deliverDatagram_keeps hfold
  obtain ⟨hcallback', hclosed'⟩ := deliverBodies_keeps { h with readCallback := cob }
  exact ⟨hcallback.trans hcallback', fun callback => (hclosed callback).trans (hclosed' callback)⟩

/-- The callback that is closed is no longer installed. -/
theorem closed_closeRead (h : TransactionHandler) (callback : ReadCallback) :
    h.closeRead.closed callback + h.closeRead.current callback =
      h.closed callback + h.current callback := by
  cases hcallback : h.readCallback with
  | none => rw [closeRead, hcallback]
  | some installed =>
    simp only [closeRead, hcallback, call, closed, current, List.count_append,
      List.count_singleton, beq_iff_eq, HandlerCall.onReadClosed.injEq, Option.some.injEq,
      reduceCtorEq, if_false, Nat.add_zero]

theorem closed_closeWithError (hrun : h.closeWithError = .ok h') (callback : ReadCallback) :
    h'.closed callback + h'.current callback = h.closed callback + h.current callback := by
  unfold closeWithError at hrun
  split at hrun
  · cases hrun
    rw [closed_closeRead, call, closed_append_of_notMem _ (by simp)]
    rfl
  · cases hrun

/-- An event closes no callback without taking it out, and installs only what
`installs` says. -/
theorem closed_handle {event : HandlerEvent} (hrun : h.handle rcvBufPkts event = .ok h')
    (callback : ReadCallback) :
    h'.closed callback + h'.current callback ≤
      h.closed callback + h.current callback + (HandlerRun.installs event).count callback := by
  cases event with
  | onHeadersComplete statusCode =>
    cases hrun
    refine Nat.le_add_right_of_le (Nat.le_of_eq ?_)
    unfold onHeadersComplete
    split
    · rw [show closed _ callback = h.closed callback from
        closed_append_of_notMem (h := { h with writeBuf := [] }) _ (by simp)]
      rfl
    · rfl
  | onDatagram datagram =>
    refine Nat.le_add_right_of_le (Nat.le_of_eq ?_)
    simp only [handle, onDatagram] at hrun
    split at hrun
    · split at hrun <;> (cases hrun; rfl)
    · obtain ⟨hcallback, hclosed⟩ := deliverDatagram_keeps hrun
      rw [current, current, hcallback, hclosed]
  | onBody body =>
    cases hrun
    refine Nat.le_add_right_of_le (Nat.le_of_eq ?_)
    unfold onBody
    split
    · rfl
    · split
      · rw [call, closed_append_of_notMem _ (by simp)]
        rfl
      · rfl
  | onEOM =>
    cases hrun
    exact Nat.le_add_right_of_le (Nat.le_of_eq (closed_closeRead h callback))
  | onUpgrade => exact Nat.le_add_right_of_le (Nat.le_of_eq (closed_closeWithError hrun callback))
  | onError => exact Nat.le_add_right_of_le (Nat.le_of_eq (closed_closeWithError hrun callback))
  | resumeRead cob =>
    obtain ⟨hcallback, hclosed⟩ := setReadCallback_keeps hrun
    rw [hclosed, current, hcallback]
    cases cob with
    | none => simp [HandlerRun.installs]
    | some installed =>
      simp only [HandlerRun.installs, List.count_singleton, beq_iff_eq, Option.some.injEq]
      omega
  | pauseRead =>
    cases hrun
    simp [pauseRead, closed, current, HandlerRun.installs]

theorem closeWithError_eq_error : h.closeWithError = .error .nullCallback ↔
    ¬ h.readCallback.isSome := by
  cases hcallback : h.readCallback <;> simp [closeWithError, hcallback]

theorem deliverDatagram_ne_nullCallback (datagram : IOBuf) :
    h.deliverDatagram datagram ≠ .error .nullCallback := by
  unfold deliverDatagram
  split
  · simp
  · split <;> simp

/-- A `CHECK` stands before every use of the pointer in `setReadCallback`. -/
theorem setReadCallback_ne_nullCallback (cob : Option ReadCallback) :
    h.setReadCallback cob ≠ .error .nullCallback := by
  intro herr
  have hfold : ∀ (datagrams : List IOBuf) (u : TransactionHandler),
      datagrams.foldlM deliverDatagram u ≠ .error .nullCallback := by
    intro datagrams
    induction datagrams with
    | nil => exact fun u h => by cases h
    | cons datagram rest ih =>
      intro u
      rw [List.foldlM_cons]
      cases hu : u.deliverDatagram datagram with
      | ok v => exact ih v
      | error fault =>
        have hne := deliverDatagram_ne_nullCallback (h := u) datagram
        rw [hu] at hne
        exact hne
  rw [setReadCallback, deliverDatagrams] at herr
  revert herr
  cases hrun : List.foldlM deliverDatagram _ _ with
  | ok u => exact fun herr => by cases herr
  | error fault =>
    intro herr
    cases herr
    exact hfold _ _ hrun

end TransactionHandler

/-! ### Runs -/

namespace HandlerRun

variable {r r' : HandlerRun} {rcvBufPkts : Nat}

/-- The callback that is installed now has an installation left. -/
def Inv (r : HandlerRun) : Prop :=
  ∀ callback, r.handler.closed callback + r.handler.current callback ≤ r.installed.count callback

theorem inv_step {event : HandlerEvent} (hinv : r.Inv) (hstep : r.step rcvBufPkts event = .ok r') :
    r'.Inv := by
  rw [step, except_bind_eq_ok] at hstep
  obtain ⟨handler, hrun, hstep⟩ := hstep
  cases hstep
  intro callback
  have hclosed := TransactionHandler.closed_handle hrun callback
  have hcount := hinv callback
  simp only [List.count_append]
  omega

theorem step_eq_nullCallback (r : HandlerRun) (event : HandlerEvent) :
    r.step rcvBufPkts event = .error .nullCallback ↔ ¬ r.HasCallback event := by
  have hbind : r.step rcvBufPkts event = .error .nullCallback ↔
      r.handler.handle rcvBufPkts event = .error .nullCallback := by
    unfold step
    cases r.handler.handle rcvBufPkts event with
    | ok h => exact ⟨nofun, nofun⟩
    | error fault =>
      change Except.error fault = Except.error Fault.nullCallback ↔ _
      simp only [Except.error.injEq]
  rw [hbind]
  cases event with
  | onUpgrade => exact TransactionHandler.closeWithError_eq_error
  | onError => exact TransactionHandler.closeWithError_eq_error
  | onDatagram datagram =>
    refine ⟨fun herr => absurd herr ?_, fun h => absurd trivial h⟩
    simp only [TransactionHandler.handle, TransactionHandler.onDatagram]
    split
    · split <;> simp
    · exact TransactionHandler.deliverDatagram_ne_nullCallback datagram
  | resumeRead cob =>
    exact ⟨fun herr => absurd herr (TransactionHandler.setReadCallback_ne_nullCallback cob),
      fun h => absurd trivial h⟩
  | onHeadersComplete statusCode => exact ⟨nofun, fun h => absurd trivial h⟩
  | onBody body => exact ⟨nofun, fun h => absurd trivial h⟩
  | onEOM => exact ⟨nofun, fun h => absurd trivial h⟩
  | pauseRead => exact ⟨nofun, fun h => absurd trivial h⟩

/-- No prefix of a run calls a null callback, and each callback is closed at most
once per installation in every state reached, exactly when errors and upgrades come
only while a callback is installed. -/
theorem handlerEvents_iff (rcvBufPkts : Nat) (events : List HandlerEvent) :
    (∀ run, run <+: events →
        run.foldlM (step rcvBufPkts) start ≠ .error .nullCallback ∧
          ∀ r, run.foldlM (step rcvBufPkts) start = .ok r → r.ClosedOnce) ↔
      Meets (step rcvBufPkts) HasCallback start events := by
  have hnull := fun s e => @step_eq_nullCallback rcvBufPkts s e
  constructor
  · intro hall
    exact (run_ne_error_iff_meets hnull).mp (hall events (List.prefix_refl events)).1
  · intro hmeets run hrun
    refine ⟨(run_ne_error_iff_meets hnull).mpr (hmeets.of_prefix hrun), fun r hr callback => ?_⟩
    have hstart : start.Inv := by
      intro callback
      simp [start, TransactionHandler.new, TransactionHandler.closed, TransactionHandler.current]
    have hinv : r.Inv := run_invariant (fun s e s' hs hstep => inv_step hs hstep) hstart hr
    exact Nat.le_of_add_right_le (hinv callback)

/-- The message ends, then an error arrives: the callback pointer is null. -/
theorem handlerEvents_error_after_eom :
    [.resumeRead (some ⟨1, 1500, false⟩), .onEOM, .onError].foldlM (step 100) start =
      .error .nullCallback := rfl

end HandlerRun

end MasqueQuic
