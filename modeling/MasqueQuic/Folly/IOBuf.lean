/-
`folly::IOBuf` chains and `folly::io::Cursor`.

A chain is a non-empty ring of elements, seen here from its head. `length`,
`data` and `trimStart` look at the head element only; a `Cursor` and
`computeChainDataLength` see the whole chain. Most defects of the capsule code
come from mixing the two views, so both are kept.
-/

import MasqueQuic.Lib.Reader
import MasqueQuic.Folly.Basic

namespace MasqueQuic

/-! ### Chains -/

/-- One element of a chain: its bytes, the room left behind them, and whether
the storage is shared with another `IOBuf`. -/
structure IOBufElem where
  data : Bytes
  tailroom : Nat
  shared : Bool
  deriving DecidableEq

/-- A chain, seen from its head. -/
structure IOBuf where
  head : IOBufElem
  next : List IOBufElem
  deriving DecidableEq

namespace IOBuf

def elems (buf : IOBuf) : List IOBufElem := buf.head :: buf.next

/-- The length of the head element. -/
def length (buf : IOBuf) : Nat := buf.head.data.length

/-- All bytes of the chain, in order. -/
def bytes (buf : IOBuf) : Bytes := buf.elems.flatMap (·.data)

def computeChainDataLength (buf : IOBuf) : Nat := (buf.elems.map (·.data.length)).sum

/-- A chain of one element that holds `bs`. -/
def wrapBuffer (bs : Bytes) : IOBuf := ⟨⟨bs, 0, false⟩, []⟩

/-- An empty element with `room` bytes of capacity. -/
def create (room : Nat) : IOBuf := ⟨⟨[], room, false⟩, []⟩

/-- `head->prependChain(other)`: in a ring, before the head is at the end. -/
def prependChain (buf other : IOBuf) : IOBuf := ⟨buf.head, buf.next ++ other.elems⟩

/-- Drop bytes from the head element. Asking for more than it holds violates the
contract of the call: the length would wrap. -/
def trimStart (buf : IOBuf) (amount : Nat) : Except Fault IOBuf :=
  if amount ≤ buf.length then
    .ok { buf with head := { buf.head with data := buf.head.data.drop amount } }
  else .error .trimStart

/-- Join the chain into one element. -/
def coalesce (buf : IOBuf) : IOBuf :=
  ⟨⟨buf.bytes, (buf.elems.getLast (List.cons_ne_nil _ _)).tailroom, false⟩, []⟩

/-- Copy construction: the copy refers to the same storage. -/
def clone (buf : IOBuf) : IOBuf :=
  ⟨{ buf.head with shared := true }, buf.next.map fun elem => { elem with shared := true }⟩

theorem bytes_eq (buf : IOBuf) :
    buf.bytes = buf.head.data ++ buf.next.flatMap (·.data) := rfl

theorem length_bytes (buf : IOBuf) : buf.bytes.length = buf.computeChainDataLength := by
  simp [bytes, computeChainDataLength, List.length_flatMap]

@[simp] theorem bytes_wrapBuffer (bs : Bytes) : (wrapBuffer bs).bytes = bs := by
  simp [bytes, elems, wrapBuffer]

@[simp] theorem bytes_create (room : Nat) : (create room).bytes = [] := rfl

@[simp] theorem bytes_prependChain (buf other : IOBuf) :
    (buf.prependChain other).bytes = buf.bytes ++ other.bytes := by
  simp [bytes, elems, prependChain]

@[simp] theorem bytes_coalesce (buf : IOBuf) : buf.coalesce.bytes = buf.bytes := by
  simp [coalesce, bytes, elems]

@[simp] theorem length_coalesce (buf : IOBuf) : buf.coalesce.length = buf.bytes.length := rfl

@[simp] theorem bytes_clone (buf : IOBuf) : buf.clone.bytes = buf.bytes := by
  simp [clone, bytes, elems, List.flatMap_map]

@[simp] theorem length_clone (buf : IOBuf) : buf.clone.length = buf.length := rfl

/-- Trimming the head drops the first bytes of the chain. -/
theorem trimStart_eq_ok {buf out : IOBuf} {n : Nat} :
    buf.trimStart n = .ok out ↔
      n ≤ buf.length ∧
        out = { buf with head := { buf.head with data := buf.head.data.drop n } } := by
  unfold trimStart
  split
  · rename_i h
    rw [Except.ok.injEq, eq_comm]
    exact ⟨fun hout => ⟨h, hout⟩, fun hout => hout.2⟩
  · rename_i h
    simp [h]

end IOBuf

/-! ### Cursors -/

/-- A cursor over the bytes of a chain; element boundaries are invisible to it. -/
abbrev Cursor := Reader Fault UInt8

namespace Cursor

def isAtEnd : Cursor Bool := Reader.isAtEnd

/-- `read<unsigned char>()`. -/
def read : Cursor UInt8 := Reader.next .cursorEnd

/-- `pull(array, n)`. -/
def pull (n : Nat) : Cursor (ByteArrayN n) := Reader.take .cursorEnd n

/-- `CHECK(p)` inside a parser. -/
def check (p : Bool) : Cursor Unit := Reader.guard .check p

end Cursor

end MasqueQuic
