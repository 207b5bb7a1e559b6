/-
Runs of a fallible step function.

A machine is a step function `S → E → Except φ S`; its runs are `List.foldlM`.
`Meets step C s es` says that every step taken from `s` satisfies the step
condition `C` (a condition on the state before the step and on the event). The
rules turn one-step facts into facts about whole runs:

* `run_invariant_of_meets`, `run_error_of_meets`: what the steps that meet a condition keep holds
  after every run whose steps meet it, and where such a run stops; `run_invariant`,
  `run_invariant_on` and `run_error_on` for no condition and for one on the events;
* `run_of_meets`, `meets_of_run`: a condition that is enough for each step, and one that every step
  into a good state must have met;
* `good_iff_meets`, `run_iff_meets`, `always_iff_meets`: an exact condition, for the runs that
  succeed, for all runs, and for the runs that are good in every state they reach;
* `reaches_good_iff_meets`, `never_bad_iff_meets`: the runs that reach no bad state, where steps
  may also fail;
* `run_ne_error_iff_meets`, `run_ok_iff_meets`: the runs that do not stop with an error, or at all.
-/

import MasqueQuic.Lib.Reader

namespace MasqueQuic

variable {S E φ : Type} {step : S → E → Except φ S} {C : S → E → Prop} {Inv Good : S → Prop}

/-- Every step of the run from `s` over `es` satisfies `C`. -/
def Meets (step : S → E → Except φ S) (C : S → E → Prop) : S → List E → Prop
  | _, [] => True
  | s, e :: es => C s e ∧ ∀ s', step s e = .ok s' → Meets step C s' es

theorem Meets.of_forall (hC : ∀ s e, C s e) (s : S) (es : List E) : Meets step C s es := by
  induction es generalizing s with
  | nil => trivial
  | cons e es ih => exact ⟨hC s e, fun s' _ => ih s'⟩

instance Meets.decidable [∀ s e, Decidable (C s e)] :
    ∀ (s : S) (es : List E), Decidable (Meets step C s es)
  | _, [] => isTrue trivial
  | s, e :: es =>
      match h : step s e with
      | .error _ => decidable_of_iff (C s e) (by simp [Meets, h])
      | .ok s' =>
          have := Meets.decidable s' es
          decidable_of_iff (C s e ∧ Meets step C s' es) (by simp [Meets, h])

instance decidableExistsOk (x : Except φ S) [∀ s, Decidable (Good s)] :
    Decidable (∃ s, x = .ok s ∧ Good s) :=
  match x with
  | .error _ => isFalse (by simp)
  | .ok s => decidable_of_iff (Good s) (by simp)

/-- What follows a computation and cannot fail does not matter for its success. -/
theorem exists_ok_bind_pure {α β : Type} {x : Except φ α} {f : α → β} :
    (∃ b, (x >>= fun a => pure (f a)) = .ok b) ↔ ∃ a, x = .ok a := by
  cases x with
  | error e =>
    constructor
    · rintro ⟨b, h⟩
      cases h
    · rintro ⟨a, h⟩
      cases h
  | ok a => exact ⟨fun _ => ⟨a, rfl⟩, fun _ => ⟨f a, rfl⟩⟩

/-- A condition on the events alone. -/
theorem Meets.of_forall_mem {P : E → Prop} {s : S} {es : List E} (hes : ∀ e ∈ es, P e) :
    Meets step (fun _ e => P e) s es := by
  induction es generalizing s with
  | nil => trivial
  | cons e es ih =>
    obtain ⟨he, hes⟩ := List.forall_mem_cons.mp hes
    exact ⟨he, fun s' _ => ih hes⟩

/-- What steps that meet the condition keep holds after every run whose steps meet it. -/
theorem run_invariant_of_meets (hstep : ∀ s e s', Inv s → C s e → step s e = .ok s' → Inv s')
    {s s' : S} {es : List E} (hs : Inv s) (hmeets : Meets step C s es)
    (hrun : es.foldlM step s = .ok s') : Inv s' := by
  induction es generalizing s with
  | nil =>
    cases hrun
    exact hs
  | cons e es ih =>
    rw [List.foldlM_cons, except_bind_eq_ok] at hrun
    obtain ⟨u, hu, hrest⟩ := hrun
    exact ih (hstep s e u hs hmeets.1 hu) (hmeets.2 u hu) hrest

/-- A run whose steps meet the condition stops as its steps do. -/
theorem run_error_of_meets {Q : φ → Prop}
    (hstep : ∀ s e s', Inv s → C s e → step s e = .ok s' → Inv s')
    (herror : ∀ s e f, Inv s → C s e → step s e = .error f → Q f) {s : S} {f : φ} {es : List E}
    (hs : Inv s) (hmeets : Meets step C s es) (hrun : es.foldlM step s = .error f) : Q f := by
  induction es generalizing s with
  | nil => cases hrun
  | cons e es ih =>
    rw [List.foldlM_cons] at hrun
    cases hu : step s e with
    | error g =>
      rw [hu] at hrun
      cases hrun
      exact herror s e f hs hmeets.1 hu
    | ok u =>
      rw [hu] at hrun
      exact ih (hstep s e u hs hmeets.1 hu) (hmeets.2 u hu) hrun

/-- What every successful step keeps holds after every run. -/
theorem run_invariant (hstep : ∀ s e s', Inv s → step s e = .ok s' → Inv s')
    {s s' : S} {es : List E} (hs : Inv s) (hrun : es.foldlM step s = .ok s') : Inv s' :=
  run_invariant_of_meets (C := fun _ _ => True) (fun s e s' h _ => hstep s e s' h) hs
    (.of_forall (fun _ _ => trivial) s es) hrun

/-- The same, when the events are restricted. -/
theorem run_invariant_on {P : E → Prop}
    (hstep : ∀ s e s', P e → Inv s → step s e = .ok s' → Inv s') {s s' : S} {es : List E}
    (hs : Inv s) (hes : ∀ e ∈ es, P e) (hrun : es.foldlM step s = .ok s') : Inv s' :=
  run_invariant_of_meets (fun s e s' h hP => hstep s e s' hP h) hs (.of_forall_mem hes) hrun

/-- A run that stops has failed in a state that satisfies the invariant. -/
theorem run_error_on {P : E → Prop} {Q : φ → Prop}
    (hstep : ∀ s e s', P e → Inv s → step s e = .ok s' → Inv s')
    (herror : ∀ s e f, P e → Inv s → step s e = .error f → Q f) {s : S} {f : φ} {es : List E}
    (hs : Inv s) (hes : ∀ e ∈ es, P e) (hrun : es.foldlM step s = .error f) : Q f :=
  run_error_of_meets (fun s e s' h hP => hstep s e s' hP h) (fun s e f h hP => herror s e f hP h) hs
    (.of_forall_mem hes) hrun

theorem run_of_meets (hstep : ∀ s e, Inv s → C s e → ∃ s', step s e = .ok s' ∧ Inv s')
    {s : S} {es : List E} (hs : Inv s) (hmeets : Meets step C s es) :
    ∃ s', es.foldlM step s = .ok s' ∧ Inv s' := by
  induction es generalizing s with
  | nil => exact ⟨s, rfl, hs⟩
  | cons e es ih =>
    obtain ⟨u, hu, hInv⟩ := hstep s e hs hmeets.1
    obtain ⟨s', hrest, hInv'⟩ := ih hInv (hmeets.2 u hu)
    refine ⟨s', ?_, hInv'⟩
    rw [List.foldlM_cons, except_bind_eq_ok]
    exact ⟨u, hu, hrest⟩

theorem meets_of_run (hback : ∀ s e s', step s e = .ok s' → Good s' → Good s ∧ C s e)
    {s s' : S} {es : List E} (hrun : es.foldlM step s = .ok s') (hgood : Good s') :
    Good s ∧ Meets step C s es := by
  induction es generalizing s with
  | nil =>
    cases hrun
    exact ⟨hgood, trivial⟩
  | cons e es ih =>
    rw [List.foldlM_cons, except_bind_eq_ok] at hrun
    obtain ⟨u, hu, hrest⟩ := hrun
    obtain ⟨hu', hmeets⟩ := ih hrest
    obtain ⟨hs, hC⟩ := hback s e u hu hu'
    refine ⟨hs, hC, fun v hv => ?_⟩
    rw [hu] at hv
    cases hv
    exact hmeets

/-- A run that succeeds ends well exactly when every step met the condition. -/
theorem good_iff_meets (hforth : ∀ s e s', step s e = .ok s' → Good s → C s e → Good s')
    (hback : ∀ s e s', step s e = .ok s' → Good s' → Good s ∧ C s e) {s s' : S} {es : List E}
    (hs : Good s) (hrun : es.foldlM step s = .ok s') : Good s' ↔ Meets step C s es := by
  refine ⟨fun hgood => (meets_of_run hback hrun hgood).2, fun hmeets => ?_⟩
  exact run_invariant_of_meets (fun s e s' h hC hstep => hforth s e s' hstep h hC) hs hmeets hrun

/-- A step that breaks the condition spoils the state, and a spoilt state stays
spoilt. Then the runs that end well are those whose steps all meet the condition.
`P` restricts the events. -/
theorem run_iff_meets {P : E → Prop} {Bad : S → Prop}
    (hstep : ∀ s e, P e → Inv s → C s e → ∃ s', step s e = .ok s' ∧ Inv s')
    (hbad : ∀ s e s', P e → Inv s → ¬ C s e → step s e = .ok s' → Bad s')
    (hmono : ∀ s e s', Bad s → step s e = .ok s' → Bad s') (hgood : ∀ s, Inv s → Good s)
    (hworse : ∀ s, Bad s → ¬ Good s) {s : S} {es : List E} (hs : Inv s) (hes : ∀ e ∈ es, P e) :
    (∃ s', es.foldlM step s = .ok s' ∧ Good s') ↔ Meets step C s es := by
  induction es generalizing s with
  | nil => exact ⟨fun _ => trivial, fun _ => ⟨s, rfl, hgood s hs⟩⟩
  | cons e es ih =>
    obtain ⟨he, hes⟩ := List.forall_mem_cons.mp hes
    simp only [List.foldlM_cons, except_bind_eq_ok]
    by_cases hC : C s e
    · obtain ⟨u, hu, hInv⟩ := hstep s e he hs hC
      simp only [Meets, hC, hu, Except.ok.injEq, true_and, forall_eq']
      rw [← ih hInv hes]
      constructor
      · rintro ⟨s', ⟨v, rfl, hrest⟩, hs'⟩
        exact ⟨s', hrest, hs'⟩
      · rintro ⟨s', hrest, hs'⟩
        exact ⟨s', ⟨u, rfl, hrest⟩, hs'⟩
    · constructor
      · rintro ⟨s', ⟨u, hu, hrest⟩, hs'⟩
        exact absurd hs' (hworse s' (run_invariant hmono (hbad s e u he hs hC hu) hrest))
      · intro hmeets
        exact absurd hmeets.1 hC

/-- A run that meets the condition meets it on every prefix. -/
theorem Meets.of_prefix {s : S} {es fs : List E} (hfs : fs <+: es)
    (hmeets : Meets step C s es) : Meets step C s fs := by
  induction fs generalizing s es with
  | nil => trivial
  | cons e fs ih =>
    obtain ⟨rest, rfl⟩ := hfs
    rw [List.cons_append] at hmeets
    exact ⟨hmeets.1, fun s' hs' => ih (List.prefix_append fs rest) (hmeets.2 s' hs')⟩

/-- A condition on every step of a run, said about its prefixes. -/
theorem meets_iff_forall_prefix {s : S} {es : List E} :
    Meets step C s es ↔
      ∀ fs e s', fs ++ [e] <+: es → fs.foldlM step s = .ok s' → C s' e := by
  induction es generalizing s with
  | nil =>
    refine ⟨fun _ fs e s' hfs => ?_, fun _ => trivial⟩
    simp at hfs
  | cons a es ih =>
    constructor
    · intro hmeets fs e s' hfs hrun
      cases fs with
      | nil =>
        cases hrun
        obtain ⟨rfl, -⟩ := List.cons_prefix_cons.mp hfs
        exact hmeets.1
      | cons b fs =>
        obtain ⟨rfl, htail⟩ := List.cons_prefix_cons.mp hfs
        rw [List.foldlM_cons, except_bind_eq_ok] at hrun
        obtain ⟨u, hu, hrest⟩ := hrun
        exact ih.mp (hmeets.2 u hu) fs e s' htail hrest
    · intro hall
      refine ⟨hall [] a s (List.cons_prefix_cons.mpr ⟨rfl, List.nil_prefix⟩) rfl, fun u hu => ?_⟩
      refine ih.mpr fun fs e s' hfs hrun => hall (a :: fs) e s' ?_ ?_
      · exact List.cons_prefix_cons.mpr ⟨rfl, hfs⟩
      · rw [List.foldlM_cons, except_bind_eq_ok]
        exact ⟨u, hu, hrun⟩

/-- A condition may be replaced by another that says the same wherever it was met before. -/
theorem meets_congr {P : S → E → Prop}
    (hstep : ∀ s e s', Inv s → C s e → step s e = .ok s' → Inv s')
    (hiff : ∀ s e, Inv s → (C s e ↔ P s e)) {s : S} {es : List E} (hs : Inv s) :
    Meets step C s es ↔ Meets step P s es := by
  induction es generalizing s with
  | nil => exact Iff.rfl
  | cons e es ih =>
    constructor
    · rintro ⟨hC, hrest⟩
      exact ⟨(hiff s e hs).mp hC, fun s' hs' => (ih (hstep s e s' hs hC hs')).mp (hrest s' hs')⟩
    · rintro ⟨hP, hrest⟩
      have hC := (hiff s e hs).mpr hP
      exact ⟨hC, fun s' hs' => (ih (hstep s e s' hs hC hs')).mpr (hrest s' hs')⟩

/-- If a step that breaks the condition ends in a bad state, then the runs that are
good in every state are those whose steps all meet the condition. -/
theorem always_iff_meets (hstep : ∀ s e, Inv s → C s e → ∃ s', step s e = .ok s' ∧ Inv s')
    (hbad : ∀ s e s', Inv s → ¬ C s e → step s e = .ok s' → ¬ Good s')
    (hgood : ∀ s, Inv s → Good s) {s : S} {es : List E} (hs : Inv s) :
    (∀ fs, fs <+: es → ∃ s', fs.foldlM step s = .ok s' ∧ Good s') ↔ Meets step C s es := by
  constructor
  · intro hall
    induction es generalizing s with
    | nil => trivial
    | cons e es ih =>
      obtain ⟨u, hu, hgood'⟩ := hall [e] ⟨es, rfl⟩
      rw [List.foldlM_cons, except_bind_eq_ok] at hu
      obtain ⟨v, hv, hvu⟩ := hu
      cases hvu
      have hC : C s e := by
        by_contra hC
        exact hbad s e _ hs hC hv hgood'
      obtain ⟨w, hw, hInv⟩ := hstep s e hs hC
      refine ⟨hC, fun s' hs' => ?_⟩
      rw [hw] at hs'
      cases hs'
      refine ih hInv fun fs hfs => ?_
      obtain ⟨s'', hrun, hs''⟩ := hall (e :: fs) (List.prefix_cons_inj e |>.mpr hfs)
      rw [List.foldlM_cons, hw] at hrun
      exact ⟨s'', hrun, hs''⟩
  · intro hmeets fs hfs
    obtain ⟨s', hrun, hInv⟩ := run_of_meets hstep hs (hmeets.of_prefix hfs)
    exact ⟨s', hrun, hgood s' hInv⟩

/-- If a step that meets the condition keeps the invariant, and one that breaks it succeeds and ends
in a bad state, then the runs that reach no bad state are those whose steps all meet the condition.
Steps that meet it may fail. -/
theorem reaches_good_iff_meets (hstep : ∀ s e s', Inv s → C s e → step s e = .ok s' → Inv s')
    (hbad : ∀ s e, Inv s → ¬ C s e → ∃ s', step s e = .ok s' ∧ ¬ Good s')
    (hgood : ∀ s, Inv s → Good s) {s : S} {es : List E} (hs : Inv s) :
    (∀ fs s', fs <+: es → fs.foldlM step s = .ok s' → Good s') ↔ Meets step C s es := by
  constructor
  · intro hall
    induction es generalizing s with
    | nil => trivial
    | cons e es ih =>
      have hC : C s e := by
        by_contra hC
        obtain ⟨u, hu, hnot⟩ := hbad s e hs hC
        refine hnot (hall [e] u ⟨es, rfl⟩ ?_)
        rw [List.foldlM_cons, hu]
        rfl
      refine ⟨hC, fun u hu => ih (hstep s e u hs hC hu) fun fs s' hfs hrun => ?_⟩
      refine hall (e :: fs) s' ((List.prefix_cons_inj e).mpr hfs) ?_
      rw [List.foldlM_cons, hu]
      exact hrun
  · intro hmeets fs s' hfs hrun
    exact hgood s' (run_invariant_of_meets hstep hs (hmeets.of_prefix hfs) hrun)

/-- The same, when every step keeps an invariant and one that meets the condition keeps the state
good. -/
theorem never_bad_iff_meets (hinv : ∀ s e s', Inv s → step s e = .ok s' → Inv s')
    (hgood : ∀ s e s', Inv s → Good s → C s e → step s e = .ok s' → Good s')
    (hbad : ∀ s e, Inv s → Good s → ¬ C s e → ∃ s', step s e = .ok s' ∧ ¬ Good s') {s : S}
    {es : List E} (hs : Inv s) (hs' : Good s) :
    (∀ fs s', fs <+: es → fs.foldlM step s = .ok s' → Good s') ↔ Meets step C s es := by
  refine @reaches_good_iff_meets S E φ step C (fun s => Inv s ∧ Good s) Good ?_ ?_ ?_ _ _ ⟨hs, hs'⟩
  · exact fun s e s' h hC hstep => ⟨hinv s e s' h.1 hstep, hgood s e s' h.1 h.2 hC hstep⟩
  · exact fun s e h hC => hbad s e h.1 h.2 hC
  · exact fun s h => h.2

/-- If a step stops with `f` exactly when it breaks the condition, so does a run. -/
theorem run_ne_error_iff_meets {f : φ} (hstep : ∀ s e, step s e = .error f ↔ ¬ C s e) {s : S}
    {es : List E} : es.foldlM step s ≠ .error f ↔ Meets step C s es := by
  induction es generalizing s with
  | nil =>
    refine ⟨fun _ => trivial, fun _ h => ?_⟩
    cases h
  | cons e es ih =>
    rw [List.foldlM_cons]
    have hC := hstep s e
    cases he : step s e with
    | ok u =>
      rw [he] at hC
      have hCse : C s e := by
        by_contra h
        cases hC.mpr h
      refine Iff.trans (ih (s := u)) ⟨fun h => ⟨hCse, fun s' hs' => ?_⟩, fun h => h.2 u he⟩
      rw [he] at hs'
      cases hs'
      exact h
    | error g =>
      rw [he] at hC
      constructor
      · intro hne
        refine ⟨?_, fun s' hs' => by rw [he] at hs'; cases hs'⟩
        by_contra h
        exact hne (hC.mpr h)
      · intro hmeets herr
        exact hC.mp herr hmeets.1

/-- If a step succeeds exactly when it meets the condition, so does a run. -/
theorem run_ok_iff_meets (hstep : ∀ s e, (∃ s', step s e = .ok s') ↔ C s e) {s : S} {es : List E} :
    (∃ s', es.foldlM step s = .ok s') ↔ Meets step C s es := by
  constructor
  · rintro ⟨s', hrun⟩
    exact (@meets_of_run S E φ step C (fun _ => True)
      (fun s e s' hs' _ => ⟨trivial, (hstep s e).mp ⟨s', hs'⟩⟩) _ _ _ hrun trivial).2
  · intro hmeets
    obtain ⟨s', hrun, -⟩ := @run_of_meets S E φ step C (fun _ => True)
      (fun s e _ hC => ((hstep s e).mpr hC).imp fun _ h => ⟨h, trivial⟩) _ _ trivial hmeets
    exact ⟨s', hrun⟩

end MasqueQuic
