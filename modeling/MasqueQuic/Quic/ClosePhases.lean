/-
What the calls of a callback make of a connection.

`ClosePhase` is where a connection stands on its way out, and `ClosePhase.after` what a call of the
application makes of it. `InPhase.appCalls` says that the functions of the transport do the same.
-/

import MasqueQuic.Quic.TransportSteps

namespace MasqueQuic

/-! ### Phases of a close -/

inductive ClosePhase where
  | open
  | gracefulClosing
  /-- Closed, and still bound until the timeout expires. -/
  | draining
  | ended
  deriving DecidableEq

namespace ClosePhase

/-- The phase in which `closeImpl` leaves a connection. -/
def closed (shouldDrain noDrain : Bool) : ClosePhase :=
  if shouldDrain && !noDrain then .draining else .ended

/-- The phase after one call. A connection that is draining or gone changes only by `closeNow`. -/
def after (shouldDrain : Bool) : ClosePhase → AppCall → ClosePhase
  | .open, .close noDrain => closed shouldDrain noDrain
  | .gracefulClosing, .close noDrain => closed shouldDrain noDrain
  | .open, .closeGracefully noStreams =>
      if noStreams then closed shouldDrain false else .gracefulClosing
  | _, .closeNow => .ended
  | phase, _ => phase

/-- What the calls of a callback make of it. -/
def afterAll (shouldDrain : Bool) (phase : ClosePhase) (calls : List AppCall) : ClosePhase :=
  calls.foldl (after shouldDrain) phase

/-- Every call ends the open phase. -/
theorem after_ne_open (shouldDrain : Bool) (phase : ClosePhase) (call : AppCall) :
    after shouldDrain phase call ≠ .open := by
  have hclosed : ∀ noDrain, closed shouldDrain noDrain ≠ .open := by
    intro noDrain
    unfold closed
    split
    · simp
    · simp
  cases phase with
  | «open» =>
    cases call with
    | close noDrain => exact hclosed noDrain
    | closeNow => simp [after]
    | closeGracefully noStreams =>
      dsimp only [after]
      split
      · exact hclosed false
      · simp
  | gracefulClosing =>
    cases call with
    | close noDrain => exact hclosed noDrain
    | closeNow => simp [after]
    | closeGracefully noStreams => simp [after]
  | draining => cases call <;> simp [after]
  | ended => cases call <;> simp [after]

/-- A callback that calls anything leaves a connection that is not open. -/
theorem afterAll_ne_open (shouldDrain : Bool) (phase : ClosePhase) {calls : List AppCall}
    (h : calls ≠ []) : afterAll shouldDrain phase calls ≠ .open := by
  obtain ⟨earlier, call, rfl⟩ := List.eq_nil_or_concat calls |>.resolve_left h
  unfold afterAll
  rw [List.concat_eq_append, List.foldl_append]
  exact after_ne_open shouldDrain _ call

end ClosePhase

def ServerTransport.phase {α ι : Type} (transport : ServerTransport α ι) : ClosePhase :=
  match transport.closeState with
  | .open => .open
  | .gracefulClosing => .gracefulClosing
  | .closed => if transport.drainTimeout then .draining else .ended

namespace WorkerWorld

variable {α ι : Type}

/-! ### Connections that are bound -/

/-- A transport that is not closed is bound, and only an open one has its setup callback. -/
structure IsBound (w : WorkerWorld α ι) (t : Nat) : Prop where
  bound : (w.transport t).closeState ≠ .closed →
    (w.transport t).routingCb = true ∧ (w.transport t).drainTimeout = false
  graceful : (w.transport t).closeState = .gracefulClosing →
    (w.transport t).connSetupCallback = false

variable [DecidableEq α] [DecidableEq ι] {t : Nat} {w : WorkerWorld α ι}

/-! ### What the calls of a callback do -/

omit [DecidableEq α] [DecidableEq ι] in
/-- Only the count of handshakes is changed by `closeTransport`. -/
theorem closeTransport_sameBinding (w : WorkerWorld α ι) :
    Ends (fun _ => True) (w.closeTransport t) fun w' =>
      SameBinding (w.transport t) (w'.transport t) := by
  unfold closeTransport onHandshakeUnfinished
  split
  · dsimp only
    split
    · apply Ends.ok
      rw [transport_modify]
      exact ⟨rfl, rfl, rfl, rfl, rfl, rfl, rfl⟩
    · exact .error trivial
  · exact .ok ⟨rfl, rfl, rfl, rfl, rfl, rfl, rfl⟩

omit [DecidableEq α] [DecidableEq ι] in
theorem countHandshakeFinished_sameBinding (w : WorkerWorld α ι) :
    Ends (fun _ => True) (w.countHandshakeFinished t) fun w' =>
      SameBinding (w.transport t) (w'.transport t) := by
  unfold countHandshakeFinished onHandshakeFinished
  split
  · dsimp only
    split
    · apply Ends.ok
      rw [transport_modify]
      exact ⟨rfl, rfl, rfl, rfl, rfl, rfl, rfl⟩
    · exact .error trivial
  · exact .ok ⟨rfl, rfl, rfl, rfl, rfl, rfl, rfl⟩

/-- What the calls go by. -/
structure InPhase (t : Nat) (drains : Bool) (phase : ClosePhase) (w : WorkerWorld α ι) :
    Prop where
  shouldDrain : (w.transport t).setup.shouldDrain = drains
  phase_eq : (w.transport t).phase = phase
  bound : phase ≠ .ended → (w.transport t).routingCb = true
  drainTimeout : (w.transport t).closeState ≠ .closed → (w.transport t).drainTimeout = false
  callback : phase ≠ .open → (w.transport t).connSetupCallback = false

namespace InPhase

variable {drains : Bool} {phase : ClosePhase} {w' : WorkerWorld α ι}

omit [DecidableEq α] [DecidableEq ι] in
theorem of_eq (h : w.InPhase t drains phase)
    (hsetup : (w'.transport t).setup = (w.transport t).setup)
    (hstate : (w'.transport t).closeState = (w.transport t).closeState)
    (hrouting : (w'.transport t).routingCb = (w.transport t).routingCb)
    (htimeout : (w'.transport t).drainTimeout = (w.transport t).drainTimeout)
    (hcallback : (w.transport t).connSetupCallback = false →
      (w'.transport t).connSetupCallback = false) : w'.InPhase t drains phase where
  shouldDrain := by rw [hsetup, h.shouldDrain]
  phase_eq := by
    rw [← h.phase_eq]
    unfold ServerTransport.phase
    rw [hstate, htimeout]
  bound hne := by rw [hrouting, h.bound hne]
  drainTimeout hopen := by
    rw [htimeout]
    exact h.drainTimeout (hstate ▸ hopen)
  callback hne := hcallback (h.callback hne)

omit [DecidableEq α] [DecidableEq ι] in
theorem of_same (h : w.InPhase t drains phase)
    (hsame : SameBinding (w.transport t) (w'.transport t)) : w'.InPhase t drains phase := by
  apply h.of_eq hsame.setup hsame.closeState hsame.routingCb hsame.drainTimeout
  rw [hsame.connSetupCallback]
  exact id

omit [DecidableEq α] [DecidableEq ι] in
/-- A connection that is not closed is in the phase that its fields show. -/
theorem of_isBound (h : w.IsBound t) (hopen : (w.transport t).closeState ≠ .closed) :
    w.InPhase t (w.transport t).setup.shouldDrain (w.transport t).phase where
  shouldDrain := rfl
  phase_eq := rfl
  bound _ := (h.bound hopen).1
  drainTimeout _ := (h.bound hopen).2
  callback hne := by
    apply h.graceful
    cases hstate : (w.transport t).closeState with
    | «open» =>
      unfold ServerTransport.phase at hne
      rw [hstate] at hne
      exact absurd rfl hne
    | gracefulClosing => rfl
    | closed => exact absurd hstate hopen

omit [DecidableEq α] [DecidableEq ι] in
theorem closeState_eq (h : w.InPhase t drains phase) :
    (w.transport t).closeState = .closed ↔ phase = .draining ∨ phase = .ended := by
  rw [← h.phase_eq]
  unfold ServerTransport.phase
  cases hstate : (w.transport t).closeState with
  | «open» => simp
  | gracefulClosing => simp
  | closed =>
    dsimp only
    split
    · simp
    · simp

omit [DecidableEq α] [DecidableEq ι] in
theorem resetCallbacks (h : w.InPhase t drains phase) :
    (w.modify t fun transport => { transport with connSetupCallback := false }).InPhase t drains
      phase := by
  apply h.of_eq
  all_goals rw [transport_modify]
  exact fun _ => rfl

omit [DecidableEq α] [DecidableEq ι] in
/-- A closed connection without a timeout that waits has ended. -/
theorem ended (hdrains : (w.transport t).setup.shouldDrain = drains)
    (hclosed : (w.transport t).closeState = .closed)
    (hcallback : (w.transport t).connSetupCallback = false)
    (htimeout : (w.transport t).drainTimeout = false) : w.InPhase t drains .ended where
  shouldDrain := hdrains
  phase_eq := by
    unfold ServerTransport.phase
    rw [hclosed, htimeout]
    rfl
  bound hne := absurd rfl hne
  drainTimeout hopen := absurd hclosed hopen
  callback _ := hcallback

/-- A connection that is still there is drained or unbound. -/
theorem closeImpl (drainConnection noDrain : Bool) (h : w.InPhase t drains phase)
    (hopen : (w.transport t).closeState ≠ .closed) :
    Ends (fun _ => True) (w.closeImpl t drainConnection noDrain)
      (InPhase t drains (if drainConnection then .closed drains noDrain else .ended)) := by
  have hbound : (w.transport t).routingCb = true := by
    apply h.bound
    intro hended
    exact hopen (h.closeState_eq.mpr (.inr hended))
  unfold WorkerWorld.closeImpl
  rw [if_neg hopen]
  set closing := w.modify t fun transport => { transport with closeState := .closed } with hclosing
  refine (closeTransport_sameBinding closing).bind fun w₁ hw₁ => Ends.ok ?_
  rw [hclosing, transport_modify] at hw₁
  have hsetup : (w₁.transport t).setup.shouldDrain = drains := by rw [hw₁.setup, h.shouldDrain]
  unfold drainOrUnbind
  rw [transport_modify, hsetup]
  by_cases hdrains : (drainConnection && drains && !noDrain) = true
  · rw [if_pos hdrains]
    simp only [Bool.and_eq_true] at hdrains
    have hphase : ClosePhase.closed drains noDrain = .draining := by
      unfold ClosePhase.closed
      rw [hdrains.1.2, hdrains.2]
      rfl
    rw [hdrains.1.1, if_pos rfl, hphase]
    constructor
    · rw [transport_modify, transport_modify]
      exact hsetup
    · rw [transport_modify, transport_modify]
      unfold ServerTransport.phase
      rw [hw₁.closeState]
      rfl
    · intro _
      rw [transport_modify, transport_modify, hw₁.routingCb]
      exact hbound
    · intro hne
      rw [transport_modify, transport_modify, hw₁.closeState] at hne
      exact absurd rfl hne
    · intro _
      rw [transport_modify, transport_modify]
  · rw [if_neg hdrains]
    have hphase : (if drainConnection then ClosePhase.closed drains noDrain else .ended) =
        .ended := by
      unfold ClosePhase.closed
      cases drainConnection with
      | false => rfl
      | true =>
        rw [if_pos rfl, if_neg]
        simpa using hdrains
    rw [hphase]
    unfold drainTimeoutExpired
    apply InPhase.ended
    all_goals rw [transport_unbindConnection, transport_modify]
    · exact hsetup
    · exact hw₁.closeState
    · rw [hw₁.drainTimeout]
      exact h.drainTimeout hopen

/-- Also a drain that is going on is cut short. -/
theorem closeNow (h : w.InPhase t drains phase) :
    Ends (fun _ => True) (w.closeNow t) (InPhase t drains .ended) := by
  have hcloses : Ends (fun _ => True) (w.closeImpl t false false) fun w' =>
      ∃ phase', w'.InPhase t drains phase' ∧ (phase' = .draining ∨ phase' = .ended) := by
    by_cases hclosed : (w.transport t).closeState = .closed
    · have heq : w.closeImpl t false false = .ok w := if_pos hclosed
      rw [heq]
      exact .ok ⟨phase, h, h.closeState_eq.mp hclosed⟩
    · exact (h.closeImpl false false hclosed).imp fun w' hw' => ⟨.ended, hw', .inr rfl⟩
  unfold WorkerWorld.closeNow
  refine hcloses.bind fun w₁ hw₁ => ?_
  obtain ⟨phase', hphase, hends⟩ := hw₁
  have hcallback : (w₁.transport t).connSetupCallback = false := by
    apply hphase.callback
    rintro rfl
    simp at hends
  split
  · apply Ends.ok
    unfold drainTimeoutExpired
    apply InPhase.ended
    all_goals rw [transport_unbindConnection, transport_modify]
    · exact hphase.shouldDrain
    · exact hphase.closeState_eq.mpr hends
    · exact hcallback
  · next htimeout =>
      rw [Bool.not_eq_true] at htimeout
      exact .ok (.ended hphase.shouldDrain (hphase.closeState_eq.mpr hends) hcallback htimeout)

theorem closeGracefully (noStreams : Bool) (h : w.InPhase t drains phase) :
    Ends (fun _ => True) (w.closeGracefully t noStreams)
      (InPhase t drains (phase.after drains (.closeGracefully noStreams))) := by
  unfold WorkerWorld.closeGracefully
  split
  · next hne =>
      have hafter : phase.after drains (.closeGracefully noStreams) = phase := by
        rw [← h.phase_eq]
        unfold ServerTransport.phase
        cases hstate : (w.transport t).closeState with
        | «open» => exact absurd hstate hne
        | gracefulClosing => rfl
        | closed =>
          dsimp only
          split
          · rfl
          · rfl
      rw [hafter]
      exact .ok h
  · next hopen =>
      rw [not_not] at hopen
      have hphase : phase = .open := by
        rw [← h.phase_eq]
        unfold ServerTransport.phase
        rw [hopen]
      subst hphase
      have hgraceful : (w.modify t fun transport =>
          { transport with connSetupCallback := false, closeState := .gracefulClosing }).InPhase t
            drains .gracefulClosing := by
        constructor
        · rw [transport_modify]
          exact h.shouldDrain
        · rw [transport_modify]
          rfl
        · intro _
          rw [transport_modify]
          exact h.bound (by simp)
        · intro _
          rw [transport_modify]
          apply h.drainTimeout
          rw [hopen]
          simp
        · intro _
          rw [transport_modify]
      dsimp only
      by_cases hstreams : noStreams = true
      · rw [hstreams, if_pos rfl]
        refine hgraceful.closeImpl true false ?_
        rw [transport_modify]
        simp
      · rw [if_neg hstreams]
        rw [Bool.not_eq_true] at hstreams
        rw [hstreams]
        exact .ok hgraceful

theorem close (noDrain : Bool) (h : w.InPhase t drains phase) :
    Ends (fun _ => True) (w.close t noDrain)
      (InPhase t drains (phase.after drains (.close noDrain))) := by
  have hreset := h.resetCallbacks
  unfold WorkerWorld.close
  by_cases hclosed : (w.transport t).closeState = .closed
  · have hafter : phase.after drains (.close noDrain) = phase := by
      rcases h.closeState_eq.mp hclosed with rfl | rfl
      · rfl
      · rfl
    unfold WorkerWorld.closeImpl
    rw [hafter, if_pos]
    · exact .ok hreset
    · rw [transport_modify]
      exact hclosed
  · have hafter : phase.after drains (.close noDrain) = .closed drains noDrain := by
      cases phase with
      | «open» => rfl
      | gracefulClosing => rfl
      | draining => exact absurd (h.closeState_eq.mpr (.inl rfl)) hclosed
      | ended => exact absurd (h.closeState_eq.mpr (.inr rfl)) hclosed
    rw [hafter]
    refine hreset.closeImpl true noDrain ?_
    rw [transport_modify]
    exact hclosed

/-- The calls do what `ClosePhase.after` says. -/
theorem appCall (call : AppCall) (h : w.InPhase t drains phase) :
    Ends (fun _ => True) (w.appCall t call) (InPhase t drains (phase.after drains call)) := by
  cases call with
  | close noDrain => exact h.close noDrain
  | closeNow =>
    have hafter : phase.after drains .closeNow = .ended := by
      cases phase with
      | «open» => rfl
      | gracefulClosing => rfl
      | draining => rfl
      | ended => rfl
    rw [hafter]
    exact h.closeNow
  | closeGracefully noStreams => exact h.closeGracefully noStreams

theorem appCalls (calls : List AppCall) (h : w.InPhase t drains phase) :
    Ends (fun _ => True) (w.appCalls t calls) (InPhase t drains (phase.afterAll drains calls)) := by
  unfold WorkerWorld.appCalls ClosePhase.afterAll
  induction calls generalizing w phase with
  | nil => exact .ok h
  | cons call calls ih =>
    rw [List.foldlM_cons, List.foldl_cons]
    exact (h.appCall call).bind fun w₁ hw₁ => ih hw₁

end InPhase

end WorkerWorld

end MasqueQuic
