/-
What a `BufAppender` makes of any calls.

`insert` makes the first element of the chain that it links current, not the last one, and the
constructor the head. A push that finds room in such an element writes in front of the bytes of the
elements behind it. `CallAppends` says of a call, before it is made, that this does no harm; the
condition is exact (`calls_bytes_iff`). The storage of an element is taken to be its own, so that a
write behind one element leaves the bytes of the others as they are.
-/

import Mathlib.Data.List.Induction
import MasqueQuic.Quic.BufAppender

namespace MasqueQuic

/-! ### Bytes in the middle -/

theorem IOBuf.elems_modifyElem (buf : IOBuf) (i : Nat) (f : IOBufElem → IOBufElem) :
    (buf.modifyElem i f).elems = buf.elems.modify i f := by
  cases i with
  | zero => rfl
  | succ i => rfl

/-- Appending to an element puts the bytes between those up to the element and those behind it. -/
theorem IOBuf.bytes_modifyElem {buf : IOBuf} {i : Nat} (hi : i < buf.elems.length) (data : Bytes) :
    (buf.modifyElem i (·.append data)).bytes =
      (buf.elems.take (i + 1)).flatMap (·.data) ++ data ++
        (buf.elems.drop (i + 1)).flatMap (·.data) := by
  rw [IOBuf.bytes, IOBuf.elems_modifyElem, List.modify_eq_take_cons_drop hi,
    List.take_succ_eq_append_getElem hi]
  simp only [List.flatMap_append, List.flatMap_cons, List.flatMap_nil, List.append_nil,
    IOBufElem.data_append, List.append_assoc]

namespace BufAppender

inductive Call where
  | push (data : Bytes)
  | writeBE (width value : Nat)
  | insert (data : IOBuf)

def Call.bytes : Call → Bytes
  | push data => data
  | writeBE width value => beBytes width value
  | insert data => data.bytes

def call (alloc : Nat → Nat) (appender : BufAppender) : Call → BufAppender
  | .push data => appender.push alloc data
  | .writeBE width value => appender.writeBE alloc width value
  | .insert data => appender.insert data

def calls (alloc : Nat → Nat) (appender : BufAppender) (cs : List Call) : BufAppender :=
  cs.foldl (call alloc) appender

/-- The bytes of the elements behind the current one. -/
def bytesBehind (appender : BufAppender) : Bytes :=
  (appender.head.elems.drop (appender.crtBuf + 1)).flatMap (·.data)

/-- The current element has no room for the data or is not written to, or the data may as well stand
in front of the bytes behind the element, as where there are none. -/
def PushAppends (appender : BufAppender) (data : Bytes) : Prop :=
  (appender.head.elemAt appender.crtBuf).tailroom < data.length ∨ appender.lastBufShared = true ∨
    data ++ appender.bytesBehind = appender.bytesBehind ++ data

def CallAppends (appender : BufAppender) : Call → Prop
  | .push data => appender.PushAppends data
  | .writeBE width value => appender.PushAppends (beBytes width value)
  | .insert _ => True

/-- The current element is one of the chain. -/
def InChain (appender : BufAppender) : Prop := appender.crtBuf < appender.head.elems.length

/-! ### One call -/

theorem AtEnd.inChain {appender : BufAppender} (h : appender.AtEnd) : appender.InChain :=
  Nat.lt_of_succ_le (Nat.le_of_eq h)

theorem AtEnd.bytesBehind {appender : BufAppender} (h : appender.AtEnd) :
    appender.bytesBehind = [] := by
  rw [BufAppender.bytesBehind, h, List.drop_length, List.flatMap_nil]

/-- A new element is at the end. -/
theorem reserve_of_full (alloc : Nat → Nat) {appender : BufAppender} {len : Nat}
    (h : (appender.head.elemAt appender.crtBuf).tailroom < len ∨ appender.lastBufShared = true) :
    (appender.reserve alloc len).AtEnd ∧
      (appender.reserve alloc len).head.bytes = appender.head.bytes := by
  rw [reserve, if_pos h]
  constructor
  · simp [AtEnd, IOBuf.elems, IOBuf.prependChain, IOBuf.create]
  · simp

theorem InChain.call (alloc : Nat → Nat) {appender : BufAppender} (h : appender.InChain)
    (c : Call) : (appender.call alloc c).InChain := by
  have hpush : ∀ data, (appender.push alloc data).InChain := by
    intro data
    have hreserve : (appender.reserve alloc data.length).InChain := by
      by_cases hfull : (appender.head.elemAt appender.crtBuf).tailroom < data.length ∨
          appender.lastBufShared = true
      · exact (reserve_of_full alloc hfull).1.inChain
      · rw [reserve, if_neg hfull]
        exact h
    simpa [InChain, push, length_elems_modifyElem] using hreserve
  cases c with
  | push data => exact hpush data
  | writeBE width value => exact hpush (beBytes width value)
  | insert data =>
    simp only [InChain, BufAppender.call, insert, IOBuf.elems, IOBuf.prependChain,
      List.length_cons, List.length_append]
    omega

/-- The bytes of the chain, cut behind the current element. -/
theorem bytes_eq_append_bytesBehind (appender : BufAppender) : appender.head.bytes =
    (appender.head.elems.take (appender.crtBuf + 1)).flatMap (·.data) ++ appender.bytesBehind := by
  rw [bytesBehind, ← List.flatMap_append, List.take_append_drop, IOBuf.bytes]

theorem push_bytes_iff (alloc : Nat → Nat) {appender : BufAppender} (h : appender.InChain)
    (data : Bytes) : (appender.push alloc data).head.bytes = appender.head.bytes ++ data ↔
      appender.PushAppends data := by
  by_cases hfull : (appender.head.elemAt appender.crtBuf).tailroom < data.length ∨
      appender.lastBufShared = true
  · obtain ⟨hend, hbytes⟩ := reserve_of_full alloc hfull
    refine iff_of_true ?_ ?_
    · rw [← hbytes]
      exact bytes_modifyElem_last hend data
    · rcases hfull with hroom | hshared
      · exact .inl hroom
      · exact .inr (.inl hshared)
  · have hpush : (appender.push alloc data).head = appender.head.modifyElem appender.crtBuf
        (·.append data) := by
      rw [push, reserve, if_neg hfull]
    rw [hpush, IOBuf.bytes_modifyElem h, bytes_eq_append_bytesBehind, List.append_assoc,
      List.append_assoc, List.append_cancel_left_eq, PushAppends, ← or_assoc, or_iff_right hfull]
    rfl

theorem call_bytes_iff (alloc : Nat → Nat) {appender : BufAppender} (h : appender.InChain)
    (c : Call) : (appender.call alloc c).head.bytes = appender.head.bytes ++ c.bytes ↔
      appender.CallAppends c := by
  cases c with
  | push data => exact push_bytes_iff alloc h data
  | writeBE width value => exact push_bytes_iff alloc h (beBytes width value)
  | insert data => exact iff_of_true (bytes_insert appender data) trivial

/-! ### All calls -/

theorem calls_concat (alloc : Nat → Nat) (appender : BufAppender) (cs : List Call) (c : Call) :
    appender.calls alloc (cs ++ [c]) = (appender.calls alloc cs).call alloc c := by
  simp [calls]

theorem InChain.calls (alloc : Nat → Nat) {appender : BufAppender} (h : appender.InChain)
    (cs : List Call) : (appender.calls alloc cs).InChain := by
  induction cs generalizing appender with
  | nil => exact h
  | cons c cs ih => exact ih (h.call alloc c)

theorem inChain_calls_ofBuf (alloc : Nat → Nat) (data : IOBuf) (appendLen : Nat) (cs : List Call) :
    ((ofBuf data appendLen).calls alloc cs).InChain := by
  apply InChain.calls
  exact Nat.succ_pos data.next.length

theorem bytes_calls_of_appends (alloc : Nat → Nat) (data : IOBuf) (appendLen : Nat) {cs : List Call}
    (h : ∀ made c, made ++ [c] <+: cs → ((ofBuf data appendLen).calls alloc made).CallAppends c) :
    ((ofBuf data appendLen).calls alloc cs).head.bytes = data.bytes ++ cs.flatMap Call.bytes := by
  induction cs using List.reverseRecOn with
  | nil => simp [calls, ofBuf]
  | append_singleton cs c ih =>
    have hbefore := ih fun made c' hmade => h made c' (hmade.trans (List.prefix_append cs [c]))
    have hcall := (call_bytes_iff alloc (inChain_calls_ofBuf alloc data appendLen cs) c).mpr
      (h cs c (List.prefix_refl _))
    rw [calls_concat, hcall, hbefore]
    simp

/-- From any buffer, the chain holds the first bytes and the pieces of the calls in their order,
after every call, exactly if every call appends. -/
theorem calls_bytes_iff (alloc : Nat → Nat) (data : IOBuf) (appendLen : Nat) (cs : List Call) :
    (∀ made, made <+: cs → ((ofBuf data appendLen).calls alloc made).head.bytes =
        data.bytes ++ made.flatMap Call.bytes) ↔
      ∀ made c, made ++ [c] <+: cs → ((ofBuf data appendLen).calls alloc made).CallAppends c := by
  constructor
  · intro hall made c hmade
    have hbefore := hall made ((List.prefix_append made [c]).trans hmade)
    have hafter := hall (made ++ [c]) hmade
    rw [← call_bytes_iff alloc (inChain_calls_ofBuf alloc data appendLen made), ← calls_concat,
      hafter, hbefore]
    simp
  · intro hall made hmade
    exact bytes_calls_of_appends alloc data appendLen fun made' c h => hall made' c (h.trans hmade)

/-- A chain of two elements of its own is inserted, with room in the first: what is pushed next
stands between them. -/
theorem calls_bytes_split : ((ofBuf (.create 0) 16).calls id
    [.insert ⟨⟨[1], 4, false⟩, [⟨[2], 0, false⟩]⟩, .push [3]]).head.bytes = [1, 3, 2] := by
  decide

end BufAppender

end MasqueQuic
