/-
`folly::io::Cursor` over a chain whose element boundaries can be seen.

A cursor is the rest of the element that it stands on, and the elements behind it. `pull` and the
integers see the bytes only (`pull_spec`, `decodeQuicInteger_spec`); `clone` gives a chain whose
elements are parts of the elements of the source. A cursor that has read an element to its end stays
there; `pull` over a boundary and `clone` then step to the next element, once.
-/

import MasqueQuic.Quic.QuicInteger

namespace MasqueQuic

abbrev ChainCursor := List Bytes

namespace ChainCursor

def ofBuf (buf : IOBuf) : ChainCursor := buf.elems.map (·.data)

/-- What is left to read. -/
def bytes (c : ChainCursor) : Bytes := c.flatten

def isAtEnd (c : ChainCursor) : Bool := c.all (·.isEmpty)

def canAdvance (c : ChainCursor) (n : Nat) : Bool := n ≤ c.bytes.length

def advanceBufferIfEmpty : ChainCursor → ChainCursor
  | [] :: e :: rest => e :: rest
  | c => c

/-- `peekBytes`: to the next element that is not empty. -/
def peekBytes : ChainCursor → ChainCursor
  | [] :: e :: rest => peekBytes (e :: rest)
  | c => c

/-- The next `n` bytes, across elements. -/
def pullFrom (n : Nat) : ChainCursor → Option (Bytes × ChainCursor)
  | [] => if n = 0 then some ([], []) else none
  | e :: rest =>
      if n ≤ e.length then some (e.take n, e.drop n :: rest)
      else (pullFrom (n - e.length) rest).map fun r => (e ++ r.1, r.2)

/-- `pull`: only the slow path steps to the next element. -/
def pull (n : Nat) (c : ChainCursor) : Option (Bytes × ChainCursor) :=
  match c with
  | e :: rest =>
      if n ≤ e.length then some (e.take n, e.drop n :: rest)
      else (pullFrom n (e :: rest)).map fun r => (r.1, advanceBufferIfEmpty r.2)
  | [] => pullFrom n []

/-- The next `n` bytes as a chain. Its elements share the storage of the source. -/
def cloneFrom (n : Nat) : ChainCursor → Option (IOBuf × ChainCursor)
  | [] => if n = 0 then some (⟨⟨[], 0, true⟩, []⟩, []) else none
  | e :: rest =>
      if n ≤ e.length then some (⟨⟨e.take n, 0, true⟩, []⟩, e.drop n :: rest)
      else (cloneFrom (n - e.length) rest).map fun r => (⟨⟨e, 0, true⟩, r.1.elems⟩, r.2)

/-- `clone`; `none` is the exception for an underflow. -/
def clone (n : Nat) (c : ChainCursor) : Option (IOBuf × ChainCursor) :=
  (cloneFrom n (advanceBufferIfEmpty c)).map fun r => (r.1, advanceBufferIfEmpty r.2)

/-- `quic::decodeQuicInteger`: the value and its width. -/
def decodeQuicInteger (c : ChainCursor) (atMost : Nat) : Option ((Nat × Nat) × ChainCursor) :=
  if atMost = 0 ∨ c.canAdvance 1 = false then none
  else match peekBytes c with
  | (firstByte :: e) :: rest =>
      let varintType := (firstByte.toNat >>> 6) &&& 0x03
      let bytesExpected := 1 <<< varintType
      if varintType = 0 then some ((firstByte.toNat &&& 0x3f, 1), e :: rest)
      else if canAdvance ((firstByte :: e) :: rest) bytesExpected = false ∨
          atMost < bytesExpected then none
      else
        (pull bytesExpected ((firstByte :: e) :: rest)).map fun r =>
          let word := beNat (r.1 ++ List.replicate (8 - bytesExpected) 0)
          (((word &&& msbMask) >>> ((8 - bytesExpected) <<< 3), bytesExpected), r.2)
  | _ => none

/-! ### The bytes that are read -/

@[simp] theorem bytes_ofBuf (buf : IOBuf) : (ofBuf buf).bytes = buf.bytes :=
  (List.flatMap_def ..).symm

@[simp] theorem bytes_advanceBufferIfEmpty (c : ChainCursor) :
    (advanceBufferIfEmpty c).bytes = c.bytes := by
  unfold advanceBufferIfEmpty
  split
  · rfl
  · rfl

@[simp] theorem bytes_peekBytes (c : ChainCursor) : (peekBytes c).bytes = c.bytes := by
  fun_induction peekBytes c with
  | case1 e rest ih => exact ih
  | case2 c h => rfl

theorem isAtEnd_iff (c : ChainCursor) : c.isAtEnd = true ↔ c.bytes = [] := by
  simp [isAtEnd, bytes, List.flatten_eq_nil_iff]

theorem canAdvance_eq_false_iff {c : ChainCursor} {n : Nat} :
    c.canAdvance n = false ↔ c.bytes.length < n := by
  simp [canAdvance]

/-- A peek finds a byte if there is one. -/
theorem peekBytes_of_bytes {c : ChainCursor} (h : c.bytes ≠ []) :
    ∃ b e rest, peekBytes c = (b :: e) :: rest := by
  fun_induction peekBytes c with
  | case1 e rest ih => exact ih h
  | case2 c hc =>
    cases c with
    | nil => exact absurd rfl h
    | cons e rest =>
      cases e with
      | cons b e => exact ⟨b, e, rest, rfl⟩
      | nil =>
        cases rest with
        | nil => exact absurd rfl h
        | cons e rest => exact absurd rfl (hc e rest)

theorem bytes_cons (e : Bytes) (rest : ChainCursor) : bytes (e :: rest) = e ++ bytes rest := rfl

theorem pullFrom_of_le {n : Nat} {c : ChainCursor} (h : n ≤ c.bytes.length) :
    ∃ c', pullFrom n c = some (c.bytes.take n, c') ∧ c'.bytes = c.bytes.drop n := by
  induction c generalizing n with
  | nil =>
    have hn : n = 0 := Nat.le_zero.mp h
    subst hn
    exact ⟨[], rfl, rfl⟩
  | cons e rest ih =>
    unfold pullFrom
    rw [bytes_cons] at h ⊢
    by_cases hle : n ≤ e.length
    · rw [if_pos hle, List.take_append_of_le_length hle, List.drop_append_of_le_length hle]
      exact ⟨_, rfl, rfl⟩
    · have hlt := (Nat.not_le.mp hle).le
      rw [List.length_append] at h
      obtain ⟨c', hpull, hc'⟩ := ih (n := n - e.length) (by omega)
      rw [if_neg hle, hpull, List.take_append, List.drop_append, List.take_of_length_le hlt,
        List.drop_of_length_le hlt]
      exact ⟨c', rfl, hc'⟩

theorem pull_of_le {n : Nat} {c : ChainCursor} (h : n ≤ c.bytes.length) :
    ∃ c', pull n c = some (c.bytes.take n, c') ∧ c'.bytes = c.bytes.drop n := by
  cases c with
  | nil => exact pullFrom_of_le h
  | cons e rest =>
    unfold pull
    dsimp only
    split
    · next hle =>
        rw [bytes_cons, List.take_append_of_le_length hle, List.drop_append_of_le_length hle]
        exact ⟨_, rfl, rfl⟩
    · obtain ⟨c', hpull, hc'⟩ := pullFrom_of_le h
      rw [hpull]
      exact ⟨_, rfl, (bytes_advanceBufferIfEmpty c').trans hc'⟩

theorem cloneFrom_of_le {n : Nat} {c : ChainCursor} (h : n ≤ c.bytes.length) :
    ∃ value c', cloneFrom n c = some (value, c') ∧ value.bytes = c.bytes.take n ∧
      c'.bytes = c.bytes.drop n := by
  induction c generalizing n with
  | nil =>
    have hn : n = 0 := Nat.le_zero.mp h
    subst hn
    exact ⟨_, [], rfl, rfl, rfl⟩
  | cons e rest ih =>
    unfold cloneFrom
    rw [bytes_cons] at h ⊢
    by_cases hle : n ≤ e.length
    · rw [if_pos hle, List.take_append_of_le_length hle, List.drop_append_of_le_length hle]
      exact ⟨_, _, rfl, List.append_nil _, rfl⟩
    · have hlt := (Nat.not_le.mp hle).le
      rw [List.length_append] at h
      obtain ⟨value, c', hclone, hvalue, hc'⟩ := ih (n := n - e.length) (by omega)
      rw [if_neg hle, hclone, List.take_append, List.drop_append, List.take_of_length_le hlt,
        List.drop_of_length_le hlt, ← hvalue]
      exact ⟨_, c', rfl, rfl, hc'⟩

theorem cloneFrom_of_lt {n : Nat} {c : ChainCursor} (h : c.bytes.length < n) :
    cloneFrom n c = none := by
  induction c generalizing n with
  | nil => exact if_neg (Nat.ne_of_gt h)
  | cons e rest ih =>
    rw [bytes_cons, List.length_append] at h
    unfold cloneFrom
    rw [if_neg (by omega), ih (by omega), Option.map_none]

theorem clone_of_le {n : Nat} {c : ChainCursor} (h : n ≤ c.bytes.length) :
    ∃ value c', clone n c = some (value, c') ∧ value.bytes = c.bytes.take n ∧
      c'.bytes = c.bytes.drop n := by
  rw [← bytes_advanceBufferIfEmpty] at h
  obtain ⟨value, c', hclone, hvalue, hc'⟩ := cloneFrom_of_le h
  rw [bytes_advanceBufferIfEmpty] at hvalue hc'
  unfold clone
  rw [hclone]
  exact ⟨value, _, rfl, hvalue, (bytes_advanceBufferIfEmpty c').trans hc'⟩

theorem clone_of_lt {n : Nat} {c : ChainCursor} (h : c.bytes.length < n) : clone n c = none := by
  rw [← bytes_advanceBufferIfEmpty] at h
  unfold clone
  rw [cloneFrom_of_lt h, Option.map_none]

/-- An integer is read as it is from the bytes. -/
theorem decodeQuicInteger_eq (c : ChainCursor) (atMost : Nat) :
    (decodeQuicInteger c atMost = none ∧ MasqueQuic.decodeQuicInteger c.bytes atMost = none) ∨
      ∃ value width c', decodeQuicInteger c atMost = some ((value, width), c') ∧
        MasqueQuic.decodeQuicInteger c.bytes atMost = some (value, width) ∧
        c'.bytes = c.bytes.drop width := by
  unfold decodeQuicInteger MasqueQuic.decodeQuicInteger
  by_cases hmost : atMost = 0
  · rw [if_pos (.inl hmost), if_pos hmost]
    exact .inl ⟨rfl, rfl⟩
  · by_cases hempty : c.bytes = []
    · have hadvance : c.canAdvance 1 = false := by simp [canAdvance, hempty]
      rw [if_pos (.inr hadvance), if_neg hmost, hempty]
      exact .inl ⟨rfl, rfl⟩
    · obtain ⟨b, e, rest, hpeek⟩ := peekBytes_of_bytes hempty
      have hbytes : c.bytes = b :: (e ++ bytes rest) := by
        rw [← bytes_peekBytes, hpeek]
        rfl
      have hadvance : ¬ c.canAdvance 1 = false := by simp [canAdvance, hbytes]
      rw [if_neg (not_or.mpr ⟨hmost, hadvance⟩), if_neg hmost, hpeek, hbytes]
      dsimp only
      split
      · exact .inr ⟨_, _, _, rfl, rfl, rfl⟩
      · simp only [canAdvance_eq_false_iff, bytes_cons, List.cons_append]
        split
        · exact .inl ⟨rfl, rfl⟩
        · next hfits =>
            have hle := Nat.not_lt.mp (not_or.mp hfits).1
            obtain ⟨c', hpull, hc'⟩ := pull_of_le (c := (b :: e) :: rest) hle
            rw [hpull]
            exact .inr ⟨_, _, c', rfl, rfl, hc'⟩

/-! ### Where a clone starts -/

/-- What the element holds from which a clone takes its first bytes. -/
def available (c : ChainCursor) : Nat := ((advanceBufferIfEmpty c).headD []).length

theorem length_of_cloneFrom {n : Nat} {c c' : ChainCursor} {value : IOBuf}
    (h : cloneFrom n c = some (value, c')) : value.length = min n (c.headD []).length := by
  cases c with
  | nil =>
    unfold cloneFrom at h
    split at h
    · next hn =>
        cases h
        rw [hn]
        rfl
    · cases h
  | cons e rest =>
    unfold cloneFrom at h
    split at h
    · cases h
      exact List.length_take
    · next hlt =>
        obtain ⟨r, -, heq⟩ := Option.map_eq_some_iff.mp h
        cases heq
        exact (Nat.min_eq_right (Nat.not_le.mp hlt).le).symm

theorem length_of_clone {n : Nat} {c c' : ChainCursor} {value : IOBuf}
    (h : clone n c = some (value, c')) : value.length = min n c.available := by
  obtain ⟨⟨value', c''⟩, hclone, heq⟩ := Option.map_eq_some_iff.mp h
  cases heq
  exact length_of_cloneFrom hclone

end ChainCursor

end MasqueQuic
