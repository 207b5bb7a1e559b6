/-
`BufQueue`: an `IOBuf` chain together with its length.

The queue keeps `chainLength_` beside the chain instead of walking it, so the two
must agree after every operation; here the agreement is a field. `splitAtMost` cuts
the chain at an element boundary or inside an element, where the two halves share
the storage. Seen as byte sequences the operations are `take`, `drop` and `++`.
-/

import MasqueQuic.Folly.IOBuf

namespace MasqueQuic

/-! ### Chains that may be null -/

/-- `std::unique_ptr<folly::IOBuf>`. -/
abbrev Buf := Option IOBuf

namespace Buf

def elems (buf : Buf) : List IOBufElem := buf.elim [] IOBuf.elems

def bytes (buf : Buf) : Bytes := buf.elim [] IOBuf.bytes

/-- The chain with the given elements; null when there are none. -/
def ofElems : List IOBufElem → Buf
  | [] => none
  | head :: next => some ⟨head, next⟩

/-- `IOBuf::empty` looks at the whole chain; a null chain counts as empty. -/
def empty (buf : Buf) : Bool := buf.elems.all (·.data.isEmpty)

/-- `dst->prependChain(src)`, or `dst = src` where there is no chain yet. -/
def appendToChain : Buf → Buf → Buf
  | none, src => src
  | some dst, none => some dst
  | some dst, some src => some (dst.prependChain src)

theorem bytes_eq (buf : Buf) : buf.bytes = buf.elems.flatMap (·.data) := by
  cases buf <;> rfl

@[simp] theorem elems_ofElems (es : List IOBufElem) : (ofElems es).elems = es := by
  cases es <;> rfl

@[simp] theorem bytes_ofElems (es : List IOBufElem) :
    (ofElems es).bytes = es.flatMap (·.data) := by
  rw [bytes_eq, elems_ofElems]

@[simp] theorem bytes_none : bytes none = [] := rfl

@[simp] theorem bytes_some (buf : IOBuf) : bytes (some buf) = buf.bytes := rfl

theorem bytes_eq_nil_of_empty {buf : Buf} (h : buf.empty = true) : buf.bytes = [] := by
  rw [bytes_eq, List.flatMap_eq_nil_iff]
  intro elem helem
  exact List.isEmpty_iff.mp (List.all_eq_true.mp h elem helem)

@[simp] theorem bytes_appendToChain (dst src : Buf) :
    (appendToChain dst src).bytes = dst.bytes ++ src.bytes := by
  cases dst with
  | none => simp [appendToChain]
  | some d => cases src <;> simp [appendToChain]

end Buf

/-! ### The queue -/

structure BufQueue where
  chain_ : Buf
  chainLength_ : Nat
  chainLength_eq : chainLength_ = chain_.bytes.length
  deriving DecidableEq

namespace BufQueue

def bytes (q : BufQueue) : Bytes := q.chain_.bytes

def chainLength (q : BufQueue) : Nat := q.chainLength_

def empty (q : BufQueue) : Bool := q.chainLength_ == 0

/-- `BufQueue(Buf chain)`. -/
def ofBuf (chain : Buf) : BufQueue := ⟨chain, chain.bytes.length, rfl⟩

/-- What is left behind by `move()`. -/
def cleared : BufQueue := ⟨none, 0, rfl⟩

def move (q : BufQueue) : Buf × BufQueue := (q.chain_, cleared)

/-- The loop of `splitAtMost` over the elements, with `len` bytes still to go. An
element that ends inside the range goes over whole; the one the range ends in is
cloned, and clone and rest are trimmed against each other. -/
def splitElems : List IOBufElem → Nat → List IOBufElem × List IOBufElem
  | [], _ => ([], [])
  | elem :: rest, len =>
      if len = 0 then ([], elem :: rest)
      else if elem.data.length > len then
        ([⟨elem.data.take len, elem.tailroom + (elem.data.length - len), true⟩],
          ⟨elem.data.drop len, elem.tailroom, true⟩ :: rest)
      else
        let (front, back) := splitElems rest (len - elem.data.length)
        (elem :: front, back)

theorem splitElems_bytes (es : List IOBufElem) (len : Nat) :
    (splitElems es len).1.flatMap (·.data) = (es.flatMap (·.data)).take len ∧
      (splitElems es len).2.flatMap (·.data) = (es.flatMap (·.data)).drop len := by
  induction es generalizing len with
  | nil => simp [splitElems]
  | cons elem rest ih =>
    rw [splitElems]
    split
    · rename_i h
      simp [h]
    · split
      · rename_i hlt
        simp [List.take_append_of_le_length (Nat.le_of_lt hlt),
          List.drop_append_of_le_length (Nat.le_of_lt hlt)]
      · rename_i hle
        obtain ⟨hfront, hback⟩ := ih (len - elem.data.length)
        simp [hfront, hback, List.take_append, List.drop_append,
          List.take_of_length_le (Nat.le_of_not_lt hle),
          List.drop_of_length_le (Nat.le_of_not_lt hle)]

/-- The first `len` bytes, and the queue without them. -/
def splitAtMost (q : BufQueue) (len : Nat) : Buf × BufQueue :=
  if q.chain_.isNone || len == 0 then (some (IOBuf.create 0), q)
  else if h : len ≥ q.chainLength_ then q.move
  else
    (.ofElems (splitElems q.chain_.elems len).1,
      { chain_ := .ofElems (splitElems q.chain_.elems len).2
        chainLength_ := q.chainLength_ - len
        chainLength_eq := by
          rw [Buf.bytes_ofElems, (splitElems_bytes _ _).2, ← Buf.bytes_eq, List.length_drop,
            q.chainLength_eq] })

/-- The queue after `trimStartAtMost`, and how much was trimmed. -/
def trimStartAtMost (q : BufQueue) (amount : Nat) : Nat × BufQueue :=
  let q' := (q.splitAtMost amount).2
  (q.chainLength_ - q'.chainLength_, q')

/-- `trimStart`: `none` stands for the `std::underflow_error`. -/
def trimStart (q : BufQueue) (amount : Nat) : Option BufQueue :=
  let (trimmed, q') := q.trimStartAtMost amount
  if trimmed ≠ amount then none else some q'

def append (q : BufQueue) (buf : Buf) : BufQueue :=
  if buf.empty then q
  else
    { chain_ := q.chain_.appendToChain buf
      chainLength_ := q.chainLength_ + buf.bytes.length
      chainLength_eq := by rw [Buf.bytes_appendToChain, List.length_append, q.chainLength_eq] }

/-! ### The operations on byte sequences -/

@[simp] theorem length_bytes (q : BufQueue) : q.bytes.length = q.chainLength :=
  q.chainLength_eq.symm

@[simp] theorem bytes_ofBuf (chain : Buf) : (ofBuf chain).bytes = chain.bytes := rfl

@[simp] theorem move_fst_bytes (q : BufQueue) : q.move.1.bytes = q.bytes := rfl

theorem empty_iff {q : BufQueue} : q.empty = true ↔ q.bytes = [] := by
  rw [empty, beq_iff_eq, q.chainLength_eq, List.length_eq_zero_iff]
  rfl

theorem splitAtMost_bytes (q : BufQueue) (len : Nat) :
    (q.splitAtMost len).1.bytes = q.bytes.take len ∧
      (q.splitAtMost len).2.bytes = q.bytes.drop len := by
  rw [splitAtMost]
  split
  · rename_i h
    rcases Bool.or_eq_true_iff.mp h with hnone | hzero
    · have hbytes : q.bytes = [] := by
        rw [bytes, Option.isNone_iff_eq_none.mp hnone, Buf.bytes_none]
      simp [hbytes]
    · simp [beq_iff_eq.mp hzero]
  · split
    · rename_i hlen
      have hle : q.bytes.length ≤ len := by
        rw [length_bytes]
        exact hlen
      rw [List.take_of_length_le hle, List.drop_of_length_le hle]
      exact ⟨rfl, rfl⟩
    · obtain ⟨hfront, hback⟩ := splitElems_bytes q.chain_.elems len
      rw [← Buf.bytes_eq] at hfront hback
      exact ⟨(Buf.bytes_ofElems _).trans hfront, (Buf.bytes_ofElems _).trans hback⟩

theorem length_splitAtMost_fst (q : BufQueue) (len : Nat) :
    (q.splitAtMost len).1.bytes.length = min len q.chainLength := by
  rw [(q.splitAtMost_bytes len).1, List.length_take, length_bytes]

theorem chainLength_splitAtMost_snd (q : BufQueue) (len : Nat) :
    (q.splitAtMost len).2.chainLength = q.chainLength - len := by
  rw [← length_bytes, (q.splitAtMost_bytes len).2, List.length_drop, length_bytes]

@[simp] theorem bytes_trimStartAtMost (q : BufQueue) (amount : Nat) :
    (q.trimStartAtMost amount).2.bytes = q.bytes.drop amount :=
  (q.splitAtMost_bytes amount).2

theorem trimStartAtMost_fst (q : BufQueue) (amount : Nat) :
    (q.trimStartAtMost amount).1 = min amount q.chainLength := by
  have h := congrArg List.length (q.bytes_trimStartAtMost amount)
  rw [length_bytes, List.length_drop, length_bytes] at h
  change q.chainLength - (q.trimStartAtMost amount).2.chainLength = _
  omega

theorem trimStart_of_le {q : BufQueue} {amount : Nat} (h : amount ≤ q.chainLength) :
    q.trimStart amount = some (q.trimStartAtMost amount).2 := by
  have htrimmed : (q.trimStartAtMost amount).1 = amount := by
    rw [trimStartAtMost_fst, Nat.min_eq_left h]
  change (if (q.trimStartAtMost amount).1 ≠ amount then none else _) = _
  rw [if_neg (not_not_intro htrimmed)]
  rfl

@[simp] theorem bytes_append (q : BufQueue) (buf : Buf) :
    (q.append buf).bytes = q.bytes ++ buf.bytes := by
  rw [append]
  split
  · rename_i h
    rw [Buf.bytes_eq_nil_of_empty h, List.append_nil]
  · exact Buf.bytes_appendToChain _ _

theorem chainLength_append (q : BufQueue) (buf : Buf) :
    (q.append buf).chainLength = q.chainLength + buf.bytes.length := by
  rw [← length_bytes, bytes_append, List.length_append, length_bytes]

end BufQueue

end MasqueQuic
