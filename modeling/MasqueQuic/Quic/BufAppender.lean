/-
`quic::BufAppender` (`quic/common/BufUtil.h`, `BufUtil.cpp`).

An appender writes behind its current element when there is room and the element
is not shared, and links a new element to the end of the chain otherwise.
`insert` links the given chain and makes its first element current. How much
room an allocation really gives is up to the allocator: `alloc n` is the
capacity of a buffer that was asked for with `n` bytes.
-/

import MasqueQuic.Quic.QuicInteger

namespace MasqueQuic

/-- Change the element at position `i` of a chain. -/
def IOBuf.modifyElem (buf : IOBuf) (i : Nat) (f : IOBufElem → IOBufElem) : IOBuf :=
  match i with
  | 0 => { buf with head := f buf.head }
  | i + 1 => { buf with next := buf.next.modify i f }

/-- The element at position `i`, or the head. -/
def IOBuf.elemAt (buf : IOBuf) (i : Nat) : IOBufElem := buf.elems.getD i buf.head

/-- Copy `data` behind the bytes of an element. -/
def IOBufElem.append (elem : IOBufElem) (data : Bytes) : IOBufElem :=
  { elem with data := elem.data ++ data, tailroom := elem.tailroom - data.length }

@[simp] theorem IOBufElem.data_append (elem : IOBufElem) (data : Bytes) :
    (elem.append data).data = elem.data ++ data := rfl

def IOBuf.isShared (buf : IOBuf) : Bool := buf.elems.any (·.shared)

/-- `crtBuf` is the position of the current element in the chain of `head`. -/
structure BufAppender where
  crtBuf : Nat
  head : IOBuf
  appendLen : Nat
  lastBufShared : Bool

namespace BufAppender

def ofBuf (data : IOBuf) (appendLen : Nat) : BufAppender := ⟨0, data, appendLen, false⟩

/-- Make room for `len` bytes in the current element, if necessary a new one. -/
def reserve (alloc : Nat → Nat) (appender : BufAppender) (len : Nat) : BufAppender :=
  if (appender.head.elemAt appender.crtBuf).tailroom < len ∨ appender.lastBufShared = true then
    { appender with
      head := appender.head.prependChain (.create (alloc (max appender.appendLen len)))
      crtBuf := appender.head.elems.length }
  else appender

def push (alloc : Nat → Nat) (appender : BufAppender) (data : Bytes) : BufAppender :=
  let appender := appender.reserve alloc data.length
  { appender with
    head := appender.head.modifyElem appender.crtBuf (·.append data)
    lastBufShared := false }

def insert (appender : BufAppender) (data : IOBuf) : BufAppender :=
  { appender with
    lastBufShared := data.isShared
    head := appender.head.prependChain data
    crtBuf := appender.head.elems.length }

/-- `writeBE` of a value on `width` bytes. -/
def writeBE (alloc : Nat → Nat) (appender : BufAppender) (width value : Nat) : BufAppender :=
  appender.push alloc (beBytes width value)

/-- `encodeQuicInteger(value, [&](auto val) { appender.writeBE(val); })`; the error
for a value that is too large is ignored by the callers. -/
def writeQuicInteger (alloc : Nat → Nat) (appender : BufAppender) (value : Nat) : BufAppender :=
  match encodeQuicInteger value with
  | none => appender
  | some bs => appender.push alloc bs

/-! ### Writing at the end of the chain -/

/-- The current element is the last one, so a push extends the chain. -/
def AtEnd (appender : BufAppender) : Prop :=
  appender.crtBuf + 1 = appender.head.elems.length

theorem atEnd_ofBuf_create (room appendLen : Nat) : (ofBuf (.create room) appendLen).AtEnd := rfl

/-- Appending to the last element appends to the chain. -/
theorem bytes_modifyElem_last {buf : IOBuf} {i : Nat} (h : i + 1 = buf.elems.length)
    (data : Bytes) : (buf.modifyElem i (·.append data)).bytes = buf.bytes ++ data := by
  obtain ⟨head, next⟩ := buf
  cases i with
  | zero =>
    have hnext : next = [] := by
      apply List.length_eq_zero_iff.mp
      simpa [IOBuf.elems] using h.symm
    subst hnext
    simp [IOBuf.modifyElem, IOBuf.bytes, IOBuf.elems]
  | succ i =>
    have hlen : next.length = i + 1 := by simpa [IOBuf.elems] using h.symm
    obtain ⟨front, last, rfl⟩ : ∃ front last, next = front ++ [last] :=
      ⟨next.dropLast, next.getLast (by intro hnil; simp [hnil] at hlen),
        (List.dropLast_append_getLast _).symm⟩
    have hi : i = front.length := by simpa using hlen.symm
    subst hi
    have hmod := List.modifyTailIdx_add (List.modifyHead (IOBufElem.append · data)) 0 front [last]
    simp only [Nat.add_zero, List.modifyTailIdx_zero, List.modifyHead_cons] at hmod
    simp [IOBuf.modifyElem, IOBuf.bytes, IOBuf.elems, List.modify, hmod]

theorem length_elems_modifyElem (buf : IOBuf) (i : Nat) (f : IOBufElem → IOBufElem) :
    (buf.modifyElem i f).elems.length = buf.elems.length := by
  cases i with
  | zero => rfl
  | succ i => simp [IOBuf.modifyElem, IOBuf.elems]

/-- Making room leaves the bytes of the chain alone. -/
theorem reserve_spec (alloc : Nat → Nat) {appender : BufAppender} (h : appender.AtEnd)
    (len : Nat) :
    (appender.reserve alloc len).AtEnd ∧
      (appender.reserve alloc len).head.bytes = appender.head.bytes := by
  unfold reserve
  split
  · refine ⟨?_, by simp⟩
    simp [AtEnd, IOBuf.elems, IOBuf.prependChain, IOBuf.create]
  · exact ⟨h, rfl⟩

theorem push_spec (alloc : Nat → Nat) {appender : BufAppender} (h : appender.AtEnd)
    (data : Bytes) :
    (appender.push alloc data).AtEnd ∧
      (appender.push alloc data).head.bytes = appender.head.bytes ++ data := by
  obtain ⟨hend, hbytes⟩ := reserve_spec alloc h data.length
  constructor
  · simpa [AtEnd, push, length_elems_modifyElem] using hend
  · rw [← hbytes]
    exact bytes_modifyElem_last hend data

theorem writeBE_spec (alloc : Nat → Nat) {appender : BufAppender} (h : appender.AtEnd)
    (width value : Nat) :
    (appender.writeBE alloc width value).AtEnd ∧
      (appender.writeBE alloc width value).head.bytes =
        appender.head.bytes ++ beBytes width value :=
  push_spec alloc h _

theorem writeQuicInteger_spec (alloc : Nat → Nat) {appender : BufAppender} (h : appender.AtEnd)
    (value : Nat) :
    (appender.writeQuicInteger alloc value).AtEnd ∧
      (appender.writeQuicInteger alloc value).head.bytes =
        appender.head.bytes ++ (encodeQuicInteger value).getD [] := by
  unfold writeQuicInteger
  cases encodeQuicInteger value with
  | none => exact ⟨h, by simp⟩
  | some bs => exact push_spec alloc h bs

@[simp] theorem bytes_insert (appender : BufAppender) (data : IOBuf) :
    (appender.insert data).head.bytes = appender.head.bytes ++ data.bytes :=
  IOBuf.bytes_prependChain _ _

@[simp] theorem length_insert (appender : BufAppender) (data : IOBuf) :
    (appender.insert data).head.length = appender.head.length := rfl

end BufAppender

end MasqueQuic
