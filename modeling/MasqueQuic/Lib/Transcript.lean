/-
Machines that answer.

A machine whose steps cannot fail takes a call to an answer and a next state; `transcript` is what it
answers to a list of calls and where it then stands. One machine refines another if a map between the
states commutes with every step, up to a map between the calls and one between the answers
(`transcript_map`).
-/

namespace MasqueQuic

variable {S C A S' C' A' : Type}

/-- The answers to a list of calls, and the state behind the last one. -/
def transcript (step : S → C → A × S) : S → List C → List A × S
  | s, [] => ([], s)
  | s, c :: cs =>
      ((step s c).1 :: (transcript step (step s c).2 cs).1, (transcript step (step s c).2 cs).2)

/-- Machines that agree step by step under the maps give the same answers, mapped. -/
theorem transcript_map {step : S → C → A × S} {step' : S' → C' → A' × S'} {state : S → S'}
    {call : C → C'} {answer : A → A'}
    (hstep : ∀ s c, (answer (step s c).1, state (step s c).2) = step' (state s) (call c)) (s : S)
    (cs : List C) : ((transcript step s cs).1.map answer, state (transcript step s cs).2) =
      transcript step' (state s) (cs.map call) := by
  induction cs generalizing s with
  | nil => rfl
  | cons c cs ih =>
    have hhead := hstep s c
    have htail := ih (step s c).2
    rw [Prod.ext_iff] at hhead htail
    simp only [transcript, List.map_cons, ← hhead.1, ← hhead.2, ← htail.1, ← htail.2]

end MasqueQuic
