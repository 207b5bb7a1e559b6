/-
Cursor readers and the formats they recognise.

A `Reader` consumes symbols from the front of a list and may fault. A `Format`
relates a value to the symbol strings that encode it. `Reads r F` says that the
reader and the format agree exactly: `r` returns `a` and leaves `t` precisely on
the inputs `e ++ t` where `e` encodes `a`. The agreement is closed under
sequencing (`Reads.bind`), guards and the loop "while not at the end"
(`readAll_iff`), so a parser written with `do` gets its grammar by composition.

Because a reader is a function, a format that some reader recognises is prefix
free (`Reads.prefix_unique`): an input has at most one encoding at its front.
That is what makes a stream of encodings parse in only one way.
-/

import Mathlib.Data.List.Basic

namespace MasqueQuic

variable {φ σ α β : Type}

/-- A fallible computation over a cursor: the state is what is left to read. -/
abbrev Reader (φ σ : Type) := StateT (List σ) (Except φ)

/-- The symbol strings that encode a value. -/
abbrev Format (σ α : Type) := α → List σ → Prop

theorem except_ok_bind (a : α) (f : α → Except φ β) : (Except.ok a >>= f) = f a := rfl

theorem except_bind_eq_ok {x : Except φ α} {f : α → Except φ β} {b : β} :
    (x >>= f) = .ok b ↔ ∃ a, x = .ok a ∧ f a = .ok b := by
  cases x with
  | error e => simp [bind, Except.bind]
  | ok a => simp [bind, Except.bind]

/-- `r` returns `a` exactly on the inputs that start with an encoding of `a`,
and leaves what follows the encoding. -/
def Reads (r : Reader φ σ α) (F : Format σ α) : Prop :=
  ∀ s a t, r.run s = .ok (a, t) ↔ ∃ e, F a e ∧ s = e ++ t

/-! ### Elementary readers -/

namespace Reader

/-- Whether everything has been read. -/
def isAtEnd : Reader φ σ Bool := fun s => .ok (s.isEmpty, s)

/-- Stop with `fault` unless `p` holds. -/
def guard (fault : φ) (p : Bool) : Reader φ σ Unit :=
  fun s => if p then .ok ((), s) else .error fault

/-- Take the next symbol. -/
def next (fault : φ) : Reader φ σ σ
  | [] => .error fault
  | x :: s => .ok (x, s)

/-- Take the next `n` symbols. -/
def take (fault : φ) (n : Nat) : Reader φ σ { xs : List σ // xs.length = n } :=
  fun s =>
    if h : n ≤ s.length then
      .ok (⟨s.take n, by simp [h]⟩, s.drop n)
    else .error fault

/-- The loop `while (!isAtEnd) push_back(r)`, run for at most `fuel` rounds. -/
def allFuel (r : Reader φ σ α) : Nat → List σ → Except φ (List α)
  | _, [] => .ok []
  | 0, _ :: _ => .ok []
  | fuel + 1, x :: s => do
      let (a, t) ← r.run (x :: s)
      let as ← allFuel r fuel t
      return a :: as

/-- The loop `while (!isAtEnd) push_back(r)`. One round per symbol is enough for
a reader that consumes at least one symbol when it succeeds. -/
def all (r : Reader φ σ α) (s : List σ) : Except φ (List α) := allFuel r s.length s

end Reader

/-! ### Composing formats -/

namespace Format

/-- The empty encoding of one value. -/
def done (a : α) : Format σ α := fun x e => x = a ∧ e = []

/-- No symbols, under a condition. -/
def guard (p : Prop) : Format σ Unit := fun _ e => p ∧ e = []

/-- An encoding of some `a`, then one in the format chosen by `a`. -/
def bind (F : Format σ α) (G : α → Format σ β) : Format σ β :=
  fun b e => ∃ a e₁ e₂, F a e₁ ∧ G a b e₂ ∧ e = e₁ ++ e₂

/-- Exactly one symbol. -/
def symbol : Format σ σ := fun x e => e = [x]

/-- Exactly `n` symbols. -/
def block (n : Nat) : Format σ { xs : List σ // xs.length = n } := fun x e => e = x.val

/-- A list of encodings, one after the other. -/
inductive Many (F : Format σ α) : Format σ (List α)
  | nil : Many F [] []
  | cons {a : α} {e : List σ} {as : List α} {es : List σ} :
      F a e → Many F as es → Many F (a :: as) (e ++ es)

theorem Many.uncons {F : Format σ α} {a : α} {as : List α} {s : List σ} (h : Many F (a :: as) s) :
    ∃ e es, F a e ∧ Many F as es ∧ s = e ++ es := by
  cases h with
  | cons ha has => exact ⟨_, _, ha, has, rfl⟩

end Format

theorem Reads.pure (a : α) : Reads (φ := φ) (σ := σ) (Pure.pure a) (Format.done a) := by
  intro s b t
  constructor
  · intro h
    cases h
    exact ⟨[], ⟨rfl, rfl⟩, rfl⟩
  · rintro ⟨e, ⟨rfl, rfl⟩, rfl⟩
    rfl

theorem Reads.bind {r : Reader φ σ α} {k : α → Reader φ σ β} {F : Format σ α}
    {G : α → Format σ β} (hr : Reads r F) (hk : ∀ a, Reads (k a) (G a)) :
    Reads (r >>= k) (F.bind G) := by
  intro s b t
  rw [StateT.run_bind, except_bind_eq_ok]
  constructor
  · rintro ⟨⟨a, u⟩, h₁, h₂⟩
    obtain ⟨e₁, hF, rfl⟩ := (hr s a u).mp h₁
    obtain ⟨e₂, hG, rfl⟩ := (hk a u b t).mp h₂
    exact ⟨e₁ ++ e₂, ⟨a, e₁, e₂, hF, hG, rfl⟩, (List.append_assoc _ _ _).symm⟩
  · rintro ⟨e, ⟨a, e₁, e₂, hF, hG, rfl⟩, rfl⟩
    refine ⟨(a, e₂ ++ t), (hr _ _ _).mpr ⟨e₁, hF, List.append_assoc _ _ _⟩, ?_⟩
    exact (hk _ _ _ _).mpr ⟨e₂, hG, rfl⟩

theorem Reads.guard (fault : φ) (p : Bool) :
    Reads (σ := σ) (Reader.guard fault p) (Format.guard (p = true)) := by
  intro s b t
  cases p with
  | false => simp [Reader.guard, Format.guard, StateT.run]
  | true =>
    simp only [Reader.guard, Format.guard, StateT.run, if_true, true_and, Except.ok.injEq,
      Prod.mk.injEq]
    exact ⟨fun h => ⟨[], rfl, h⟩, by rintro ⟨e, rfl, rfl⟩; rfl⟩

theorem Reads.next (fault : φ) : Reads (σ := σ) (Reader.next fault) Format.symbol := by
  intro s a t
  cases s with
  | nil => simp [Reader.next, Format.symbol, StateT.run]
  | cons x s =>
    simp only [Reader.next, Format.symbol, StateT.run, Except.ok.injEq, Prod.mk.injEq]
    constructor
    · rintro ⟨rfl, rfl⟩
      exact ⟨[x], rfl, rfl⟩
    · rintro ⟨e, rfl, h⟩
      simpa using h

theorem Reads.take (fault : φ) (n : Nat) :
    Reads (σ := σ) (Reader.take fault n) (Format.block n) := by
  intro s a t
  simp only [Reader.take, Format.block, StateT.run]
  constructor
  · intro h
    split at h
    · cases h
      exact ⟨_, rfl, (List.take_append_drop n s).symm⟩
    · cases h
  · rintro ⟨e, rfl, rfl⟩
    obtain ⟨xs, rfl⟩ := a
    simp

theorem Reads.congr {r : Reader φ σ α} {F G : Format σ α} (hr : Reads r F)
    (hiff : ∀ a e, F a e ↔ G a e) : Reads r G := by
  intro s a t
  rw [hr s a t]
  exact ⟨fun ⟨e, he, hs⟩ => ⟨e, (hiff a e).mp he, hs⟩, fun ⟨e, he, hs⟩ => ⟨e, (hiff a e).mpr he, hs⟩⟩

/-! ### One input -/

/-- `r` returns `a` on every input that starts with `e`, and leaves the rest. -/
def Accepts (r : Reader φ σ α) (e : List σ) (a : α) : Prop :=
  ∀ t, r.run (e ++ t) = .ok (a, t)

theorem Reads.accepts {r : Reader φ σ α} {F : Format σ α} (hr : Reads r F) {a : α} {e : List σ}
    (h : F a e) : Accepts r e a := fun _ => (hr _ _ _).mpr ⟨e, h, rfl⟩

theorem Accepts.pure (a : α) : Accepts (φ := φ) (σ := σ) (Pure.pure a) [] a := fun _ => rfl

theorem Accepts.bind {r : Reader φ σ α} {k : α → Reader φ σ β} {a : α} {b : β} {e e' : List σ}
    (hr : Accepts r e a) (hk : Accepts (k a) e' b) : Accepts (r >>= k) (e ++ e') b := by
  intro t
  rw [StateT.run_bind, List.append_assoc, hr (e' ++ t)]
  exact hk t

theorem Accepts.map {r : Reader φ σ α} {a : α} {e : List σ} (hr : Accepts r e a) (f : α → β) :
    Accepts (f <$> r) e (f a) := by
  intro t
  rw [StateT.run_map, hr t]
  rfl

theorem Accepts.guard (fault : φ) {p : Bool} (hp : p = true) :
    Accepts (σ := σ) (Reader.guard fault p) [] () := by
  intro t
  subst hp
  rfl

/-- `r` stops with this fault on every input that starts with `e`. -/
def Faults (r : Reader φ σ α) (e : List σ) (fault : φ) : Prop :=
  ∀ t, r.run (e ++ t) = .error fault

theorem Faults.guard (fault : φ) {p : Bool} (hp : p = false) (e : List σ) :
    Faults (Reader.guard fault p) e fault := by
  intro t
  subst hp
  rfl

theorem Faults.bind {r : Reader φ σ α} {e : List σ} {fault : φ} (hr : Faults r e fault)
    (k : α → Reader φ σ β) : Faults (r >>= k) e fault := by
  intro t
  rw [StateT.run_bind, hr t]
  rfl

theorem Faults.map {r : Reader φ σ α} {e : List σ} {fault : φ} (hr : Faults r e fault) (f : α → β) :
    Faults (f <$> r) e fault := by
  intro t
  rw [StateT.run_map, hr t]
  rfl

theorem Accepts.bind_faults {r : Reader φ σ α} {k : α → Reader φ σ β} {a : α} {e e' : List σ}
    {fault : φ} (hr : Accepts r e a) (hk : Faults (k a) e' fault) :
    Faults (r >>= k) (e ++ e') fault := by
  intro t
  rw [StateT.run_bind, List.append_assoc, hr (e' ++ t)]
  exact hk t

/-- A recognised format is prefix free: an input starts with at most one
encoding, of at most one value. -/
theorem Reads.prefix_unique {r : Reader φ σ α} {F : Format σ α} (hr : Reads r F) {a b : α}
    {e e' x y : List σ} (ha : F a e) (hb : F b e') (heq : e ++ x = e' ++ y) :
    a = b ∧ e = e' ∧ x = y := by
  have h₁ := (hr (e ++ x) a x).mpr ⟨e, ha, rfl⟩
  have h₂ := (hr (e ++ x) b y).mpr ⟨e', hb, heq⟩
  rw [h₁] at h₂
  cases h₂
  exact ⟨rfl, List.append_cancel_right heq, rfl⟩

/-! ### Reading to the end -/

section All

variable {r : Reader φ σ α} {F : Format σ α}

/-- Only the empty list is encoded by nothing. -/
theorem Format.many_nil_iff (hne : ∀ a e, F a e → e ≠ []) {as : List α} :
    Format.Many F as [] ↔ as = [] := by
  constructor
  · intro h
    generalize hs : ([] : List σ) = s at h
    cases h with
    | nil => rfl
    | cons ha _ => exact absurd (List.append_eq_nil_iff.mp hs.symm).1 (hne _ _ ha)
  · rintro rfl
    exact .nil

theorem allFuel_iff (hr : Reads r F) (hne : ∀ a e, F a e → e ≠ []) (fuel : Nat) (s : List σ)
    (hfuel : s.length ≤ fuel) (as : List α) :
    Reader.allFuel r fuel s = .ok as ↔ Format.Many F as s := by
  induction fuel generalizing s as with
  | zero =>
    have hs : s = [] := List.length_eq_zero_iff.mp (Nat.le_zero.mp hfuel)
    subst hs
    rw [Format.many_nil_iff hne, Reader.allFuel, Except.ok.injEq, eq_comm]
  | succ fuel ih =>
    cases s with
    | nil => rw [Format.many_nil_iff hne, Reader.allFuel, Except.ok.injEq, eq_comm]
    | cons x s =>
      simp only [Reader.allFuel, except_bind_eq_ok]
      constructor
      · rintro ⟨⟨a, t⟩, hread, as', hrest, hout⟩
        cases hout
        obtain ⟨e, he, hs⟩ := (hr _ _ _).mp hread
        have hlen := congrArg List.length hs
        have hpos := List.length_pos_iff.mpr (hne a e he)
        rw [List.length_append] at hlen
        rw [hs]
        exact .cons he ((ih t (by omega) as').mp hrest)
      · intro h
        generalize hs : x :: s = s' at h hfuel
        cases h with
        | nil => cases hs
        | @cons a e as' es ha hrest =>
          have hpos := List.length_pos_iff.mpr (hne a e ha)
          rw [List.length_append] at hfuel
          exact ⟨(a, es), (hr _ _ _).mpr ⟨e, ha, rfl⟩, as',
            (ih es (by omega) as').mpr hrest, rfl⟩

/-- The loop returns `as` exactly when the whole input is the encodings of `as`
in a row. -/
theorem readAll_iff (hr : Reads r F) (hne : ∀ a e, F a e → e ≠ []) (s : List σ)
    (as : List α) : r.all s = .ok as ↔ Format.Many F as s :=
  allFuel_iff hr hne s.length s (Nat.le_refl _) as

/-- A list of encodings has one reading. -/
theorem Format.Many.values_unique (hr : Reads r F) (hne : ∀ a e, F a e → e ≠ []) {s : List σ}
    {as bs : List α} (ha : Format.Many F as s) (hb : Format.Many F bs s) : as = bs := by
  rw [← readAll_iff hr hne] at ha hb
  rw [ha] at hb
  exact Except.ok.inj hb

/-- Two readings of the same values from one stream take the same symbols. -/
theorem Format.Many.unique_of_values (hr : Reads r F) {as : List α} {p p' x y : List σ}
    (h : Format.Many F as p) (h' : Format.Many F as p') (heq : p ++ x = p' ++ y) : p = p' := by
  induction h generalizing p' with
  | nil =>
    cases h' with
    | nil => rfl
  | @cons a e as es ha _ ih =>
    cases h' with
    | @cons _ e' _ es' ha' hrest' =>
      rw [List.append_assoc, List.append_assoc] at heq
      obtain ⟨-, rfl, htail⟩ := hr.prefix_unique ha ha' heq
      rw [ih hrest' htail]

end All

/-- A condition on every element can be stated apart from the encodings. -/
theorem Format.many_and_iff {F : Format σ α} {p : α → Prop} {as : List α} {s : List σ} :
    Format.Many (fun a e => F a e ∧ p a) as s ↔ Format.Many F as s ∧ ∀ a ∈ as, p a := by
  constructor
  · intro h
    induction h with
    | nil => exact ⟨.nil, by simp⟩
    | cons ha _ ih => exact ⟨.cons ha.1 ih.1, List.forall_mem_cons.mpr ⟨ha.2, ih.2⟩⟩
  · rintro ⟨h, hp⟩
    induction h with
    | nil => exact .nil
    | cons ha _ ih =>
      obtain ⟨hhead, htail⟩ := List.forall_mem_cons.mp hp
      exact .cons ⟨ha, hhead⟩ (ih htail)

/-- A list of encodings, read off element by element. -/
theorem Format.Many.of_map {F : Format σ α} {enc : α → List σ} {as : List α}
    (h : ∀ a ∈ as, F a (enc a)) : Format.Many F as (as.flatMap enc) := by
  induction as with
  | nil => exact .nil
  | cons a as ih =>
    rw [List.flatMap_cons]
    exact .cons (h a List.mem_cons_self) (ih fun b hb => h b (List.mem_cons_of_mem _ hb))

end MasqueQuic
