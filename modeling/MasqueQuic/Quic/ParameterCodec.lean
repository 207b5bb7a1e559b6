/-
Transport parameters on the wire (`quic/fizz/handshake/FizzTransportParameters.h`) and the getters
of `quic/handshake/TransportParameters.cpp`, with the values as the chains that they are.

A value is cloned from the extension, so its elements are parts of the elements of the message. The
integers are read and the reset token is joined across them; `getConnIdParameter` takes the length of
the first element for the length of the value. `transportParameters_iff` says on which chains all the
parameters come back.
-/

import Mathlib.Data.List.Destutter
import MasqueQuic.Quic.ChainCursor
import MasqueQuic.Quic.AckDelayExponent
import MasqueQuic.Quic.BufAppender

namespace MasqueQuic

structure ChainedParameter where
  parameter : Nat
  value : IOBuf
  deriving DecidableEq

/-- What it is on the wire: the ID and the bytes of the value. -/
def ChainedParameter.record (param : ChainedParameter) : Nat × Bytes :=
  (param.parameter, param.value.bytes)

/-- `std::sort` by ID. The order of equal IDs is open. -/
structure ParameterSort where
  sort : List ChainedParameter → List ChainedParameter
  perm : ∀ parameters, (sort parameters).Perm parameters
  sorted : ∀ parameters, (sort parameters).Pairwise fun a b => a.parameter ≤ b.parameter

inductive VarintParamFault where
  | runtimeError (message : String)
  | outOfRange (message : String)
  deriving DecidableEq

namespace ChainedParameter

def encodeVarintParams (alloc : Nat → Nat) (parameters : List ChainedParameter)
    (appender : BufAppender) : BufAppender :=
  parameters.foldl (fun appender param =>
    let appender := appender.writeQuicInteger alloc param.parameter
    let appender := appender.writeQuicInteger alloc param.value.computeChainDataLength
    appender.insert param.value.clone) appender

/-- `std::unique` keeps the first of equal IDs in a row. -/
def removeDuplicateParams (order : ParameterSort) (params : List ChainedParameter) :
    List ChainedParameter :=
  (order.sort params).destutter fun a b => a.parameter ≠ b.parameter

/-- The ID and the length of a parameter. -/
def decodeHeader (cursor : ChainCursor) : Except VarintParamFault ((Nat × Nat) × ChainCursor) :=
  match cursor.decodeQuicInteger sizeofUint64 with
  | none => .error (.runtimeError "Could not parse transport parameter id.")
  | some ((id, _), cursor) =>
      match cursor.decodeQuicInteger sizeofUint64 with
      | none => .error (.runtimeError "Could not parse transport parameter length.")
      | some ((len, _), cursor) => .ok ((id, len), cursor)

/-- One round of the loop. -/
def decodeParam (cursor : ChainCursor) : Except VarintParamFault (ChainedParameter × ChainCursor) := do
  let header ← decodeHeader cursor
  match header.2.clone header.1.2 with
  | none => throw (.outOfRange "underflow")
  | some (value, cursor) => return (⟨header.1.1, value⟩, cursor)

/-- The loop of `decodeVarintParams`. A round takes at least two bytes. -/
def decodeLoop : Nat → ChainCursor → Except VarintParamFault (List ChainedParameter)
  | 0, _ => .ok []
  | fuel + 1, cursor =>
      if cursor.isAtEnd then .ok []
      else do
        let param ← decodeParam cursor
        let parameters ← decodeLoop fuel param.2
        return param.1 :: parameters

def decodeVarintParams (order : ParameterSort) (cursor : ChainCursor) :
    Except VarintParamFault (List ChainedParameter) := do
  let parameters ← decodeLoop cursor.bytes.length cursor
  return removeDuplicateParams order parameters

def findParameter (parameters : List ChainedParameter) (id : Nat) : Option ChainedParameter :=
  parameters.find? fun param => param.parameter == id

def getIntegerParameter (id : Nat) (parameters : List ChainedParameter) :
    ParameterResult (Option Nat) :=
  match findParameter parameters id with
  | none => .ok none
  | some param =>
      match (ChainCursor.ofBuf param.value).decodeQuicInteger sizeofUint64 with
      | none => .error (.transport ("Failed to decode integer from TransportParameterId: " ++
          toString id) .transportParameterError)
      | some ((value, _), _) => .ok (some value)

/-- `ConnectionId(cursor, len)`. -/
def connectionIdFrom (cursor : ChainCursor) (len : Nat) : ParameterResult Bytes :=
  if len = 0 then .ok []
  else if len > kMaxConnectionIdSize then .error (.runtimeError "ConnectionId invalid size")
  else match cursor.pull len with
  | none => .error (.runtimeError "underflow")
  | some (connid, _) => .ok connid

/-- The length is that of the first element. -/
def getConnIdParameter (id : Nat) (parameters : List ChainedParameter) :
    ParameterResult (Option Bytes) :=
  match findParameter parameters id with
  | none => .ok none
  | some param => do
      let value := param.value.clone
      let connid ← connectionIdFrom (ChainCursor.ofBuf value) value.length
      return some connid

def getStatelessResetTokenParameter (parameters : List ChainedParameter) :
    ParameterResult (Option Bytes) :=
  match findParameter parameters TransportParameterId.statelessResetToken.code with
  | none => .ok none
  | some param =>
      let range := param.value.clone.coalesce.head.data
      if range.length ≠ kStatelessResetTokenLength then
        .error (.transport "Invalid reset token" .transportParameterError)
      else .ok (some range)

/-! ### The wire format -/

/-- A complete record: the ID, the length of the value and the value. -/
def RecordFormat : Format UInt8 (Nat × Bytes) := fun record e =>
  ∃ id len, Varint record.1 id ∧ Varint record.2.length len ∧ e = id ++ len ++ record.2

theorem decodeHeader_of_varints {cursor : ChainCursor} {id len : Nat} {e₁ e₂ t : Bytes}
    (hid : Varint id e₁) (hlen : Varint len e₂) (hbytes : cursor.bytes = e₁ ++ (e₂ ++ t)) :
    ∃ cursor', decodeHeader cursor = .ok ((id, len), cursor') ∧ cursor'.bytes = t := by
  have hfirst := decodeQuicInteger_append hid (e₂ ++ t)
  rw [← hbytes] at hfirst
  rcases cursor.decodeQuicInteger_eq sizeofUint64 with ⟨-, hnone⟩ | ⟨_, _, c, hc, hsome, hrest⟩
  · rw [hfirst] at hnone
    cases hnone
  · rw [hfirst] at hsome
    cases hsome
    rw [hbytes, List.drop_left] at hrest
    have hsecond := decodeQuicInteger_append hlen t
    rw [← hrest] at hsecond
    rcases c.decodeQuicInteger_eq sizeofUint64 with ⟨-, hnone⟩ | ⟨_, _, c', hc', hsome, hrest'⟩
    · rw [hsecond] at hnone
      cases hnone
    · rw [hsecond] at hsome
      cases hsome
      rw [hrest, List.drop_left] at hrest'
      refine ⟨c', ?_, hrest'⟩
      unfold decodeHeader
      rw [hc]
      dsimp only
      rw [hc']

theorem varints_of_decodeHeader {cursor cursor' : ChainCursor} {id len : Nat}
    (h : decodeHeader cursor = .ok ((id, len), cursor')) :
    ∃ e₁ e₂, Varint id e₁ ∧ Varint len e₂ ∧ cursor.bytes = e₁ ++ (e₂ ++ cursor'.bytes) := by
  unfold decodeHeader at h
  rcases cursor.decodeQuicInteger_eq sizeofUint64 with ⟨hnone, -⟩ | ⟨id, _, c, hc, hsome, hrest⟩
  · rw [hnone] at h
    cases h
  · rw [hc] at h
    dsimp only at h
    rcases c.decodeQuicInteger_eq sizeofUint64 with ⟨hnone, -⟩ | ⟨len, _, c', hc', hsome', hrest'⟩
    · rw [hnone] at h
      cases h
    · rw [hc'] at h
      cases h
      obtain ⟨e₁, t, hid, rfl, hbytes⟩ := decodeQuicInteger_iff.mp hsome
      obtain ⟨e₂, t', hlen, rfl, hbytes'⟩ := decodeQuicInteger_iff.mp hsome'
      rw [hbytes, List.drop_left] at hrest
      rw [hbytes', List.drop_left] at hrest'
      exact ⟨e₁, e₂, hid, hlen, by rw [hbytes, ← hrest, hbytes', hrest']⟩

theorem decodeParam_of_record {cursor : ChainCursor} {record : Nat × Bytes} {e t : Bytes}
    (h : RecordFormat record e) (hbytes : cursor.bytes = e ++ t) :
    ∃ param cursor', decodeParam cursor = .ok (param, cursor') ∧ param.record = record ∧
      cursor'.bytes = t := by
  obtain ⟨id, value⟩ := record
  obtain ⟨e₁, e₂, hid, hlen, rfl⟩ := h
  obtain ⟨c, hheader, hc⟩ := decodeHeader_of_varints (t := value ++ t) hid hlen
    (by rw [hbytes, List.append_assoc, List.append_assoc])
  have hle : value.length ≤ c.bytes.length := by
    rw [hc, List.length_append]
    exact Nat.le_add_right _ _
  obtain ⟨chain, c', hclone, hchain, hc'⟩ := ChainCursor.clone_of_le hle
  rw [hc, List.take_left] at hchain
  rw [hc, List.drop_left] at hc'
  refine ⟨⟨id, chain⟩, c', ?_, ?_, hc'⟩
  · unfold decodeParam
    rw [hheader]
    dsimp only [bind, Except.bind]
    rw [hclone]
    rfl
  · rw [record, hchain]

theorem record_of_decodeParam {cursor cursor' : ChainCursor} {param : ChainedParameter}
    (h : decodeParam cursor = .ok (param, cursor')) :
    ∃ e, RecordFormat param.record e ∧ cursor.bytes = e ++ cursor'.bytes := by
  unfold decodeParam at h
  rw [except_bind_eq_ok] at h
  obtain ⟨⟨⟨id, len⟩, c⟩, hheader, hclone⟩ := h
  obtain ⟨e₁, e₂, hid, hlen, hbytes⟩ := varints_of_decodeHeader hheader
  dsimp only at hclone
  by_cases hle : len ≤ c.bytes.length
  · obtain ⟨chain, c', hclone', hchain, hc'⟩ := ChainCursor.clone_of_le hle
    rw [hclone'] at hclone
    cases hclone
    have hlength : chain.bytes.length = len := by rw [hchain, List.length_take, Nat.min_eq_left hle]
    refine ⟨e₁ ++ e₂ ++ chain.bytes, ⟨e₁, e₂, hid, hlength ▸ hlen, rfl⟩, ?_⟩
    rw [hbytes, hc', hchain, List.append_assoc, List.append_assoc, List.take_append_drop]
  · rw [ChainCursor.clone_of_lt (Nat.not_le.mp hle)] at hclone
    cases hclone

theorem RecordFormat.ne_nil {record : Nat × Bytes} {e : Bytes} (h : RecordFormat record e) :
    e ≠ [] := by
  obtain ⟨id, len, ⟨k, -, hlength, -⟩, -, rfl⟩ := h
  intro hnil
  rw [List.append_assoc, List.append_eq_nil_iff] at hnil
  rw [hnil.1] at hlength
  exact absurd hlength (Nat.ne_of_lt (Nat.pow_pos (by decide)))

/-- Enough rounds read the records that there are. -/
theorem decodeLoop_of_many {records : List (Nat × Bytes)} {s : Bytes}
    (h : Format.Many RecordFormat records s) {fuel : Nat} {cursor : ChainCursor}
    (hbytes : cursor.bytes = s) (hfuel : s.length ≤ fuel) :
    ∃ parameters, decodeLoop fuel cursor = .ok parameters ∧ parameters.map record = records := by
  induction h generalizing fuel cursor with
  | nil =>
    cases fuel with
    | zero => exact ⟨[], rfl, rfl⟩
    | succ fuel => exact ⟨[], if_pos ((cursor.isAtEnd_iff).mpr hbytes), rfl⟩
  | @cons first e rest es he hes ih =>
    have hpos := List.length_pos_iff.mpr he.ne_nil
    rw [List.length_append] at hfuel
    obtain ⟨param, cursor', hparam, hrecord, hcursor'⟩ := decodeParam_of_record he hbytes
    cases fuel with
    | zero => omega
    | succ fuel =>
      have hfuel' : es.length ≤ fuel := by omega
      obtain ⟨parameters, hloop, hmap⟩ := ih hcursor' hfuel'
      have hend : ¬ cursor.isAtEnd = true := by
        rw [cursor.isAtEnd_iff, hbytes, List.append_eq_nil_iff]
        exact fun hnil => he.ne_nil hnil.1
      refine ⟨param :: parameters, ?_, by rw [List.map_cons, hrecord, hmap]⟩
      unfold decodeLoop
      rw [if_neg hend, hparam, except_ok_bind, hloop]
      rfl

theorem many_of_decodeLoop {fuel : Nat} {cursor : ChainCursor} {parameters : List ChainedParameter}
    (hfuel : cursor.bytes.length ≤ fuel) (h : decodeLoop fuel cursor = .ok parameters) :
    Format.Many RecordFormat (parameters.map record) cursor.bytes := by
  induction fuel generalizing cursor parameters with
  | zero =>
    cases h
    rw [List.length_eq_zero_iff.mp (Nat.le_zero.mp hfuel)]
    exact .nil
  | succ fuel ih =>
    unfold decodeLoop at h
    split at h
    · next hend =>
        cases h
        rw [(cursor.isAtEnd_iff).mp hend]
        exact .nil
    · rw [except_bind_eq_ok] at h
      obtain ⟨⟨param, cursor'⟩, hparam, h⟩ := h
      rw [except_bind_eq_ok] at h
      obtain ⟨rest, hloop, h⟩ := h
      cases h
      obtain ⟨e, he, hbytes⟩ := record_of_decodeParam hparam
      have hpos := List.length_pos_iff.mpr he.ne_nil
      have hfuel' : cursor'.bytes.length ≤ fuel := by
        rw [hbytes, List.length_append] at hfuel
        omega
      have hrest := ih hfuel' hloop
      rw [hbytes]
      exact .cons he hrest

/-! ### Values in one element -/

/-- Where the cursor comes to a value of at most 20 bytes, the element that it stands on, or else the
next one, holds the whole value. -/
inductive Unsplit : ChainCursor → Prop
  | done {cursor : ChainCursor} (hend : cursor.isAtEnd = true) : Unsplit cursor
  | param {cursor value rest : ChainCursor} {id len : Nat} {chain : IOBuf}
      (hheader : decodeHeader cursor = .ok ((id, len), value))
      (hone : len ≤ kMaxConnectionIdSize → len ≤ value.available)
      (hclone : value.clone len = some (chain, rest)) (hrest : Unsplit rest) : Unsplit cursor

/-- All bytes are in the first element, or there are too many for a connection ID. -/
def HeldByOne (param : ChainedParameter) : Prop :=
  param.value.bytes.length ≤ kMaxConnectionIdSize → param.value.length = param.value.bytes.length

theorem decodeParam_eq_ok {cursor cursor' : ChainCursor} {param : ChainedParameter} :
    decodeParam cursor = .ok (param, cursor') ↔
      ∃ len value, decodeHeader cursor = .ok ((param.parameter, len), value) ∧
        value.clone len = some (param.value, cursor') := by
  unfold decodeParam
  rw [except_bind_eq_ok]
  constructor
  · rintro ⟨⟨⟨id, len⟩, value⟩, hheader, hclone⟩
    dsimp only at hclone
    split at hclone
    · cases hclone
    · next hsome =>
        cases hclone
        exact ⟨len, value, hheader, hsome⟩
  · rintro ⟨len, value, hheader, hclone⟩
    refine ⟨_, hheader, ?_⟩
    dsimp only
    rw [hclone]
    rfl

theorem clone_heldByOne_iff {cursor rest : ChainCursor} {len id : Nat} {chain : IOBuf}
    (h : cursor.clone len = some (chain, rest)) :
    HeldByOne ⟨id, chain⟩ ↔ (len ≤ kMaxConnectionIdSize → len ≤ cursor.available) := by
  have hlength := ChainCursor.length_of_clone h
  by_cases hle : len ≤ cursor.bytes.length
  · obtain ⟨chain', rest', hclone, hbytes, -⟩ := ChainCursor.clone_of_le hle
    rw [h] at hclone
    cases hclone
    have htotal : chain.bytes.length = len := by rw [hbytes, List.length_take, Nat.min_eq_left hle]
    unfold HeldByOne
    dsimp only
    rw [htotal, hlength, min_eq_left_iff]
  · rw [ChainCursor.clone_of_lt (Nat.not_le.mp hle)] at h
    cases h

theorem unsplit_iff {fuel : Nat} {cursor : ChainCursor} {parameters : List ChainedParameter}
    (hfuel : cursor.bytes.length ≤ fuel) (h : decodeLoop fuel cursor = .ok parameters) :
    Unsplit cursor ↔ ∀ param ∈ parameters, HeldByOne param := by
  induction fuel generalizing cursor parameters with
  | zero =>
    cases h
    have hnil := List.length_eq_zero_iff.mp (Nat.le_zero.mp hfuel)
    exact iff_of_true (.done ((cursor.isAtEnd_iff).mpr hnil)) (fun param hparam => by cases hparam)
  | succ fuel ih =>
    unfold decodeLoop at h
    split at h
    · next hend =>
        cases h
        exact iff_of_true (.done hend) (fun param hparam => by cases hparam)
    · next hend =>
        rw [except_bind_eq_ok] at h
        obtain ⟨⟨param, rest⟩, hparam, h⟩ := h
        rw [except_bind_eq_ok] at h
        obtain ⟨others, hloop, h⟩ := h
        cases h
        obtain ⟨e, he, hbytes⟩ := record_of_decodeParam hparam
        have hpos := List.length_pos_iff.mpr he.ne_nil
        have hfuel' : rest.bytes.length ≤ fuel := by
          rw [hbytes, List.length_append] at hfuel
          omega
        have hrest := ih hfuel' hloop
        obtain ⟨len, value, hheader, hclone⟩ := decodeParam_eq_ok.mp hparam
        rw [List.forall_mem_cons, ← hrest]
        have hone := @clone_heldByOne_iff _ _ _ param.parameter _ hclone
        constructor
        · intro hunsplit
          cases hunsplit with
          | done hdone => exact absurd hdone hend
          | param hheader' hone' hclone' hrest' =>
            rw [hheader] at hheader'
            cases hheader'
            rw [hclone] at hclone'
            cases hclone'
            exact ⟨hone.mpr hone', hrest'⟩
        · rintro ⟨hheld, hunsplit⟩
          exact .param hheader (hone.mp hheld) hclone hunsplit

/-! ### The encoder -/

def encoded (param : ChainedParameter) : Bytes :=
  (encodeQuicInteger param.parameter).getD [] ++
    (encodeQuicInteger param.value.computeChainDataLength).getD [] ++ param.value.bytes

/-- After a value has been linked, the appender makes a new element. -/
def Appendable (appender : BufAppender) : Prop :=
  appender.AtEnd ∨ appender.lastBufShared = true

theorem push_appendable (alloc : Nat → Nat) {appender : BufAppender} (h : Appendable appender)
    (data : Bytes) :
    (appender.push alloc data).AtEnd ∧
      (appender.push alloc data).head.bytes = appender.head.bytes ++ data := by
  rcases h with h | h
  · exact appender.push_spec alloc h data
  · have hreserve : appender.reserve alloc data.length = { appender with
        head := appender.head.prependChain (.create (alloc (max appender.appendLen data.length)))
        crtBuf := appender.head.elems.length } := if_pos (.inr h)
    have hend : (appender.reserve alloc data.length).AtEnd := by
      rw [hreserve]
      simp [BufAppender.AtEnd, IOBuf.elems, IOBuf.prependChain, IOBuf.create]
    constructor
    · simpa [BufAppender.AtEnd, BufAppender.push, BufAppender.length_elems_modifyElem] using hend
    · refine (BufAppender.bytes_modifyElem_last hend data).trans ?_
      rw [hreserve]
      simp

theorem writeQuicInteger_appendable (alloc : Nat → Nat) {appender : BufAppender}
    (h : Appendable appender) (value : Nat) :
    Appendable (appender.writeQuicInteger alloc value) ∧
      (appender.writeQuicInteger alloc value).head.bytes =
        appender.head.bytes ++ (encodeQuicInteger value).getD [] := by
  unfold BufAppender.writeQuicInteger
  cases encodeQuicInteger value with
  | none => exact ⟨h, (List.append_nil _).symm⟩
  | some bs =>
    obtain ⟨hend, hbytes⟩ := push_appendable alloc h bs
    exact ⟨.inl hend, hbytes⟩

theorem isShared_clone (buf : IOBuf) : buf.clone.isShared = true := by
  simp [IOBuf.isShared, IOBuf.clone, IOBuf.elems]

theorem bytes_encodeVarintParams (alloc : Nat → Nat) (parameters : List ChainedParameter)
    {appender : BufAppender} (h : Appendable appender) :
    (encodeVarintParams alloc parameters appender).head.bytes =
      appender.head.bytes ++ parameters.flatMap encoded := by
  induction parameters generalizing appender with
  | nil => exact (List.append_nil _).symm
  | cons param parameters ih =>
    obtain ⟨hid, hidBytes⟩ := writeQuicInteger_appendable alloc h param.parameter
    obtain ⟨hlen, hlenBytes⟩ :=
      writeQuicInteger_appendable alloc hid param.value.computeChainDataLength
    refine (ih (.inr (isShared_clone param.value))).trans ?_
    rw [BufAppender.bytes_insert, hlenBytes, hidBytes, IOBuf.bytes_clone, List.flatMap_cons]
    simp only [encoded, List.append_assoc]

/-! ### The getters -/

theorem findParameter_of_mem {parameters : List ChainedParameter}
    (hnodup : (parameters.map (·.parameter)).Nodup) {param : ChainedParameter}
    (h : param ∈ parameters) : findParameter parameters param.parameter = some param := by
  induction parameters with
  | nil => cases h
  | cons first rest ih =>
    obtain ⟨hfirst, hrest⟩ := List.nodup_cons.mp hnodup
    unfold findParameter
    rcases List.mem_cons.mp h with rfl | hmem
    · exact List.find?_cons_of_pos (beq_self_eq_true _)
    · rw [List.find?_cons_of_neg]
      · exact ih hrest hmem
      · intro heq
        exact hfirst (List.mem_map.mpr ⟨param, hmem, (beq_iff_eq.mp heq).symm⟩)

theorem getIntegerParameter_of_found {parameters : List ChainedParameter}
    {param : ChainedParameter} {value : Nat}
    (hfound : findParameter parameters param.parameter = some param)
    (hvalue : encodeQuicInteger value = some param.value.bytes) :
    getIntegerParameter param.parameter parameters = .ok (some value) := by
  have hdecode := decodeQuicInteger_append (encodeQuicInteger_varint hvalue) []
  rw [List.append_nil, ← ChainCursor.bytes_ofBuf] at hdecode
  unfold getIntegerParameter
  rw [hfound]
  rcases (ChainCursor.ofBuf param.value).decodeQuicInteger_eq sizeofUint64 with
    ⟨-, hnone⟩ | ⟨_, _, c, hc, hsome, -⟩
  · rw [hdecode] at hnone
    cases hnone
  · rw [hdecode] at hsome
    cases hsome
    dsimp only
    rw [hc]

theorem getStatelessResetTokenParameter_of_found {parameters : List ChainedParameter}
    {param : ChainedParameter}
    (hfound : findParameter parameters TransportParameterId.statelessResetToken.code = some param)
    (hlength : param.value.bytes.length = kStatelessResetTokenLength) :
    getStatelessResetTokenParameter parameters = .ok (some param.value.bytes) := by
  have hrange : param.value.clone.coalesce.head.data = param.value.bytes :=
    IOBuf.bytes_clone param.value
  unfold getStatelessResetTokenParameter
  rw [hfound]
  dsimp only
  rw [hrange, if_neg (not_not_intro hlength)]

theorem connectionIdFrom_head (value : IOBuf) (h : value.length ≤ kMaxConnectionIdSize) :
    connectionIdFrom (ChainCursor.ofBuf value) value.length = .ok value.head.data := by
  unfold connectionIdFrom
  split
  · next hzero => rw [List.length_eq_zero_iff.mp hzero]
  · rw [if_neg (Nat.not_lt.mpr h)]
    have hpull : (ChainCursor.ofBuf value).pull value.length =
        some (value.head.data.take value.length,
          value.head.data.drop value.length :: value.next.map (·.data)) := if_pos (Nat.le_refl _)
    rw [hpull]
    exact congrArg Except.ok List.take_length

/-- A connection ID comes back exactly if the first element of its value holds it. -/
theorem getConnIdParameter_iff {parameters : List ChainedParameter} {param : ChainedParameter}
    (hfound : findParameter parameters param.parameter = some param)
    (hlength : param.value.bytes.length ≤ kMaxConnectionIdSize) :
    getConnIdParameter param.parameter parameters = .ok (some param.value.bytes) ↔
      HeldByOne param := by
  have hle : param.value.length ≤ param.value.bytes.length := by
    rw [IOBuf.bytes_eq, List.length_append]
    exact Nat.le_add_right _ _
  have hget : getConnIdParameter param.parameter parameters =
      .ok (some param.value.head.data) := by
    unfold getConnIdParameter
    rw [hfound]
    dsimp only
    rw [connectionIdFrom_head param.value.clone (hle.trans hlength)]
    rfl
  rw [hget, Except.ok.injEq, Option.some.injEq]
  constructor
  · intro heq _
    exact congrArg List.length heq
  · intro hheld
    have hsplit : param.value.bytes =
        param.value.head.data ++ param.value.next.flatMap (·.data) := rfl
    rw [hsplit]
    have hnext : (param.value.next.flatMap (·.data)).length = 0 := by
      have hsame := hheld hlength
      rw [hsplit, List.length_append] at hsame
      have hhead : param.value.length = param.value.head.data.length := rfl
      omega
    rw [List.length_eq_zero_iff.mp hnext, List.append_nil]

/-! ### Round trips -/

theorem removeDuplicateParams_eq (order : ParameterSort) {params : List ChainedParameter}
    (hnodup : (params.map (·.parameter)).Nodup) :
    removeDuplicateParams order params = order.sort params := by
  refine List.destutter_of_isChain _ _ (List.Pairwise.isChain ?_)
  have hsorted := ((order.perm params).map (·.parameter)).nodup_iff.mpr hnodup
  exact List.pairwise_map.mp hsorted

theorem decodeVarintParams_ok_iff (order : ParameterSort) (cursor : ChainCursor) :
    (∃ decoded, decodeVarintParams order cursor = .ok decoded) ↔
      ∃ records, Format.Many RecordFormat records cursor.bytes := by
  unfold decodeVarintParams
  constructor
  · rintro ⟨decoded, h⟩
    rw [except_bind_eq_ok] at h
    obtain ⟨parameters, hloop, -⟩ := h
    exact ⟨_, many_of_decodeLoop (Nat.le_refl _) hloop⟩
  · rintro ⟨records, h⟩
    obtain ⟨parameters, hloop, -⟩ := decodeLoop_of_many h rfl (Nat.le_refl _)
    rw [hloop]
    exact ⟨_, rfl⟩

end ChainedParameter

/-- Parameters with distinct IDs and values, that can be encoded. -/
structure ParameterList where
  parameters : List ChainedParameter
  nodup : (parameters.map (·.parameter)).Nodup
  parameter_lt : ∀ param ∈ parameters, param.parameter < 2 ^ 62
  /-- No value is longer than memory. -/
  length_lt : ∀ param ∈ parameters, param.value.bytes.length < 2 ^ 62

namespace ChainedParameter

/-- The extension data of `encodeExtension`. -/
def encodeExtension (alloc : Nat → Nat) (parameters : List ChainedParameter) : IOBuf :=
  (encodeVarintParams alloc parameters (.ofBuf (.create (alloc 0)) 40)).head

theorem many_encoded {parameters : List ChainedParameter}
    (hid : ∀ param ∈ parameters, param.parameter < 2 ^ 62)
    (hlength : ∀ param ∈ parameters, param.value.bytes.length < 2 ^ 62) :
    Format.Many RecordFormat (parameters.map record) (parameters.flatMap encoded) := by
  induction parameters with
  | nil => exact .nil
  | cons param parameters ih =>
    obtain ⟨hparam, hid⟩ := List.forall_mem_cons.mp hid
    obtain ⟨hvalue, hlength⟩ := List.forall_mem_cons.mp hlength
    obtain ⟨e₁, he₁⟩ := encodeQuicInteger_of_lt hparam
    obtain ⟨e₂, he₂⟩ := encodeQuicInteger_of_lt hvalue
    refine .cons ⟨e₁, e₂, encodeQuicInteger_varint he₁, encodeQuicInteger_varint he₂, ?_⟩
      (ih hid hlength)
    rw [encoded, he₁, ← IOBuf.length_bytes, he₂]
    rfl

/-- All values come back, and so do integers and the reset token. -/
structure ComesBack (parameters decoded : List ChainedParameter) : Prop where
  values : ∀ id, (findParameter decoded id).map (·.value.bytes) =
    (findParameter parameters id).map (·.value.bytes)
  integers : ∀ param ∈ parameters, ∀ value, encodeQuicInteger value = some param.value.bytes →
    getIntegerParameter param.parameter decoded = .ok (some value)
  resetToken : ∀ param ∈ parameters,
    param.parameter = TransportParameterId.statelessResetToken.code →
    param.value.bytes.length = kStatelessResetTokenLength →
    getStatelessResetTokenParameter decoded = .ok (some param.value.bytes)

def ConnIdsComeBack (parameters decoded : List ChainedParameter) : Prop :=
  ∀ param ∈ parameters, param.value.bytes.length ≤ kMaxConnectionIdSize →
    getConnIdParameter param.parameter decoded = .ok (some param.value.bytes)

section Decoded

variable {parameters decoded : List ChainedParameter}

/-- A parameter is found by its ID, with its bytes. -/
theorem found_of_mem (hrecords : (decoded.map record).Perm (parameters.map record))
    (hnodup : (decoded.map (·.parameter)).Nodup) {param : ChainedParameter}
    (h : param ∈ parameters) :
    ∃ param' ∈ decoded, param'.parameter = param.parameter ∧
      param'.value.bytes = param.value.bytes ∧
      findParameter decoded param'.parameter = some param' := by
  have hmem := hrecords.mem_iff.mpr (List.mem_map_of_mem h)
  obtain ⟨param', hparam', heq⟩ := List.mem_map.mp hmem
  obtain ⟨hid, hvalue⟩ := Prod.mk.inj heq
  exact ⟨param', hparam', hid, hvalue, findParameter_of_mem hnodup hparam'⟩

theorem findParameter_eq_none {id : Nat} (h : ∀ param ∈ parameters, param.parameter ≠ id) :
    findParameter parameters id = none := by
  refine List.find?_eq_none.mpr fun param hparam heq => ?_
  exact h param hparam (beq_iff_eq.mp heq)

theorem comesBack (hrecords : (decoded.map record).Perm (parameters.map record))
    (hnodup : (parameters.map (·.parameter)).Nodup) (hnodup' : (decoded.map (·.parameter)).Nodup) :
    ComesBack parameters decoded where
  values id := by
    by_cases hid : ∃ param ∈ parameters, param.parameter = id
    · obtain ⟨param, hparam, rfl⟩ := hid
      obtain ⟨param', -, hid, hvalue, hfound⟩ := found_of_mem hrecords hnodup' hparam
      rw [hid] at hfound
      rw [hfound, findParameter_of_mem hnodup hparam, Option.map_some, Option.map_some, hvalue]
    · have hnone : ∀ param ∈ parameters, param.parameter ≠ id :=
        fun param hparam heq => hid ⟨param, hparam, heq⟩
      have hnone' : ∀ param ∈ decoded, param.parameter ≠ id := by
        intro param hparam
        obtain ⟨param', hparam', heq⟩ :=
          List.mem_map.mp (hrecords.mem_iff.mp (List.mem_map_of_mem hparam))
        rw [← (Prod.mk.inj heq).1]
        exact hnone param' hparam'
      rw [findParameter_eq_none hnone, findParameter_eq_none hnone']
  integers param hparam value hvalue := by
    obtain ⟨param', -, hid, hbytes, hfound⟩ := found_of_mem hrecords hnodup' hparam
    rw [← hid]
    exact getIntegerParameter_of_found hfound (by rw [hbytes]; exact hvalue)
  resetToken param hparam hcode hlength := by
    obtain ⟨param', -, hid, hbytes, hfound⟩ := found_of_mem hrecords hnodup' hparam
    rw [hid, hcode] at hfound
    rw [← hbytes]
    exact getStatelessResetTokenParameter_of_found hfound (by rw [hbytes]; exact hlength)

theorem connIdsComeBack_iff (hrecords : (decoded.map record).Perm (parameters.map record))
    (hnodup' : (decoded.map (·.parameter)).Nodup) :
    ConnIdsComeBack parameters decoded ↔ ∀ param ∈ decoded, HeldByOne param := by
  constructor
  · intro hback param hparam hlength
    obtain ⟨param', hparam', heq⟩ :=
      List.mem_map.mp (hrecords.mem_iff.mp (List.mem_map_of_mem hparam))
    obtain ⟨hid, hvalue⟩ := Prod.mk.inj heq
    have hget := hback param' hparam' (by rw [hvalue]; exact hlength)
    rw [hid, hvalue] at hget
    exact (getConnIdParameter_iff (findParameter_of_mem hnodup' hparam) hlength).mp hget hlength
  · intro hheld param hparam hlength
    obtain ⟨param', hparam', hid, hbytes, hfound⟩ := found_of_mem hrecords hnodup' hparam
    rw [← hid, ← hbytes]
    exact (getConnIdParameter_iff hfound (by rw [hbytes]; exact hlength)).mpr (hheld param' hparam')

end Decoded

/-- However the encoded extension is split, the same parameters are decoded, with their integers
and the reset token; and the connection IDs are the same exactly if no value of at most 20 bytes is
split. Anything else than complete records is rejected. -/
theorem transportParameters_iff (alloc : Nat → Nat) (order : ParameterSort) :
    (∀ (params : ParameterList) (chain : IOBuf),
      chain.bytes = (encodeExtension alloc params.parameters).bytes →
      ∃ decoded, decodeVarintParams order (ChainCursor.ofBuf chain) = .ok decoded ∧
        ComesBack params.parameters decoded ∧
        (ConnIdsComeBack params.parameters decoded ↔ Unsplit (ChainCursor.ofBuf chain))) ∧
    ∀ chain : IOBuf, (∃ decoded, decodeVarintParams order (ChainCursor.ofBuf chain) = .ok decoded) ↔
      ∃ records, Format.Many RecordFormat records chain.bytes := by
  constructor
  · intro params chain hchain
    have hbytes : (ChainCursor.ofBuf chain).bytes = params.parameters.flatMap encoded := by
      rw [ChainCursor.bytes_ofBuf, hchain, encodeExtension,
        bytes_encodeVarintParams alloc _ (.inl (BufAppender.atEnd_ofBuf_create _ _))]
      rfl
    obtain ⟨read, hloop, hread⟩ := decodeLoop_of_many
      (many_encoded params.parameter_lt params.length_lt) hbytes (Nat.le_refl _)
    have hids : read.map (·.parameter) = params.parameters.map (·.parameter) := by
      have hfst := congrArg (List.map Prod.fst) hread
      rwa [List.map_map, List.map_map] at hfst
    have hnodup : (read.map (·.parameter)).Nodup := by
      rw [hids]
      exact params.nodup
    have hperm := order.perm read
    have hrecords : ((order.sort read).map record).Perm (params.parameters.map record) := by
      rw [← hread]
      exact hperm.map record
    have hnodup' : ((order.sort read).map (·.parameter)).Nodup :=
      (hperm.map (·.parameter)).nodup_iff.mpr hnodup
    refine ⟨order.sort read, ?_, comesBack hrecords params.nodup hnodup', ?_⟩
    · unfold decodeVarintParams
      rw [hbytes, hloop, except_ok_bind, removeDuplicateParams_eq order hnodup]
      rfl
    · rw [connIdsComeBack_iff hrecords hnodup', unsplit_iff (Nat.le_of_eq (by rw [hbytes])) hloop]
      exact forall_congr' fun param => by rw [hperm.mem_iff]
  · intro chain
    rw [decodeVarintParams_ok_iff, ChainCursor.bytes_ofBuf]

/-! ### An instance -/

def mergeSortById : ParameterSort where
  sort parameters := parameters.mergeSort fun a b => a.parameter ≤ b.parameter
  perm parameters := List.mergeSort_perm parameters _
  sorted parameters := by
    refine (List.pairwise_mergeSort ?_ ?_ parameters).imp of_decide_eq_true
    · intro a b c hab hbc
      exact decide_eq_true (Nat.le_trans (of_decide_eq_true hab) (of_decide_eq_true hbc))
    · intro a b
      simpa using Nat.le_total a.parameter b.parameter

/-- `initial_source_connection_id`, with an ID of four bytes. -/
def sourceConnectionId : ParameterList where
  parameters := [⟨0x0f, .wrapBuffer [1, 2, 3, 4]⟩]
  nodup := List.nodup_singleton _
  parameter_lt param h := by
    rw [List.mem_singleton.mp h]
    decide
  length_lt param h := by
    rw [List.mem_singleton.mp h]
    decide

/-- The chain is cut between the ID of the parameter and its length. -/
theorem transportParameters_example :
    ∃ decoded, decodeVarintParams mergeSortById
        (ChainCursor.ofBuf ⟨⟨[0x0f], 0, false⟩, [⟨[4, 1, 2, 3, 4], 0, false⟩]⟩) = .ok decoded ∧
      ComesBack sourceConnectionId.parameters decoded ∧
      ConnIdsComeBack sourceConnectionId.parameters decoded := by
  obtain ⟨decoded, hdecode, hback, hids⟩ := (transportParameters_iff id mergeSortById).1
    sourceConnectionId ⟨⟨[0x0f], 0, false⟩, [⟨[4, 1, 2, 3, 4], 0, false⟩]⟩ (by decide)
  have hunsplit : Unsplit (ChainCursor.ofBuf ⟨⟨[0x0f], 0, false⟩, [⟨[4, 1, 2, 3, 4], 0, false⟩]⟩) :=
    .param rfl (fun _ => by decide) rfl (.done rfl)
  exact ⟨decoded, hdecode, hback, hids.mpr hunsplit⟩

/-- The ID that is read ends where the first element of the chain does. -/
theorem connIdParameter_split :
    (decodeVarintParams mergeSortById
      (ChainCursor.ofBuf ⟨⟨[0x0f, 4, 1], 0, false⟩, [⟨[2, 3, 4], 0, false⟩]⟩)).toOption.map
        (fun decoded => (getConnIdParameter 0x0f decoded).toOption) =
      some (some (some [1])) ∧
    (⟨⟨[0x0f, 4, 1], 0, false⟩, [⟨[2, 3, 4], 0, false⟩]⟩ : IOBuf).bytes =
      (encodeExtension id sourceConnectionId.parameters).bytes := by
  constructor
  · decide +kernel
  · decide +kernel

end ChainedParameter

end MasqueQuic
