/-
The order of the ranges of a route advertisement.

The format has rules about the list: no range is inverted, IPv4 comes before IPv6, and
within a version a range ends before the next ones start. `parseCapsule` hands `is_sorted`
a comparison of the end of one range with the start of another one. That no range is less
than the one before it is less than the rules: `routeAdvertisement_rules_iff` says what is
missing.

The addresses of both versions lie on one line, IPv4 first (`IPAddress.rank`). There the
comparison is the one of numbers.
-/

import Mathlib.Data.List.Chain
import MasqueQuic.Masque.CapsuleFormat

namespace MasqueQuic

/-! ### Ranges on a line -/

def IPAddress.rank : IPAddress → Nat
  | .empty => 0
  | .v4 ip => ip.toLongHBO
  | .v6 ip => 2 ^ 32 + beNat ip.addr.val

namespace AddressRange

/-- Both ends are addresses of one version. -/
inductive OneVersion : AddressRange → Prop
  | v4 (startIP endIP : IPAddressV4) : OneVersion ⟨.v4 startIP, .v4 endIP⟩
  | v6 (startIP endIP : IPAddressV6) : OneVersion ⟨.v6 startIP, .v6 endIP⟩

theorem oneVersion_of_format {range : AddressRange} {e : Bytes} (h : RangeFormat range e) :
    range.OneVersion := by
  obtain ⟨startIP, endIP⟩ := range
  obtain ⟨version, _, _, protocol, -, hstart, hend, -, -⟩ := h
  rcases hstart with ⟨hv, a, rfl, -⟩ | ⟨hv, a, rfl, -⟩
  · rcases hend with ⟨-, b, rfl, -⟩ | ⟨hne, -⟩
    · exact .v4 ⟨a⟩ ⟨b⟩
    · exact absurd hv hne
  · rcases hend with ⟨hv', -⟩ | ⟨-, b, rfl, -⟩
    · exact absurd hv' hv
    · exact .v6 ⟨a⟩ ⟨b⟩

/-- The address lies in the range. -/
def Covers (range : AddressRange) (ip : IPAddress) : Prop :=
  ip.version = range.startIP.version ∧ ip.lt range.startIP = false ∧ range.endIP.lt ip = false

/-- Some address lies in both ranges. -/
def Overlaps (rangeA rangeB : AddressRange) : Prop := ∃ ip, rangeA.Covers ip ∧ rangeB.Covers ip

end AddressRange

namespace IPAddress

theorem lt_iff_rank {a b : IPAddress} (hversion : a.version = b.version) (hne : a.version ≠ 0) :
    a.lt b = true ↔ a.rank < b.rank := by
  cases a with
  | empty => exact absurd rfl hne
  | v4 a =>
    cases b with
    | v4 b => simp [lt, rank]
    | empty => cases hversion
    | v6 b => cases hversion
  | v6 a =>
    cases b with
    | v6 b => simp [lt, rank]
    | empty => cases hversion
    | v4 b => cases hversion

theorem lt_eq_false_iff_rank {a b : IPAddress} (hversion : a.version = b.version)
    (hne : a.version ≠ 0) : a.lt b = false ↔ b.rank ≤ a.rank := by
  rw [← Nat.not_lt, ← lt_iff_rank hversion hne, Bool.not_eq_true]

theorem rank_v4_lt (a : IPAddressV4) (b : IPAddressV6) : (v4 a).rank < (v6 b).rank := by
  have h := a.toLongHBO_lt
  simp only [rank]
  omega

end IPAddress

namespace AddressRange

variable {range rangeA rangeB : AddressRange}

theorem OneVersion.version_eq (h : range.OneVersion) :
    range.endIP.version = range.startIP.version ∧ range.startIP.version ≠ 0 := by
  cases h with
  | v4 a b => exact ⟨rfl, Nat.succ_ne_zero 3⟩
  | v6 a b => exact ⟨rfl, Nat.succ_ne_zero 5⟩

/-- The comparison that `is_sorted` is given. -/
theorem rangeLess_iff (hA : rangeA.OneVersion) (hB : rangeB.OneVersion) :
    rangeLess rangeA rangeB = true ↔ rangeA.endIP.rank < rangeB.startIP.rank := by
  cases hA with
  | v4 a a' =>
    cases hB with
    | v4 b b' => simp [rangeLess, IPAddress.isV4, IPAddress.version, IPAddress.lt, IPAddress.rank]
    | v6 b b' => simp [rangeLess, IPAddress.isV4, IPAddress.rank_v4_lt]
  | v6 a a' =>
    cases hB with
    | v4 b b' =>
      have h := IPAddress.rank_v4_lt b a'
      simp only [rangeLess, IPAddress.isV4]
      simp only [Bool.false_eq_true, ne_eq, not_false_eq_true, if_true, false_iff]
      omega
    | v6 b b' => simp [rangeLess, IPAddress.isV4, IPAddress.version, IPAddress.lt, IPAddress.rank]

theorem covers_start (h : range.OneVersion) (hle : range.startIP.rank ≤ range.endIP.rank) :
    range.Covers range.startIP := by
  obtain ⟨hversion, hne⟩ := h.version_eq
  refine ⟨rfl, ?_, ?_⟩
  · exact (IPAddress.lt_eq_false_iff_rank rfl hne).mpr (Nat.le_refl _)
  · exact (IPAddress.lt_eq_false_iff_rank hversion (hversion ▸ hne)).mpr hle

theorem rank_of_covers {ip : IPAddress} (h : range.OneVersion) (hip : range.Covers ip) :
    range.startIP.rank ≤ ip.rank ∧ ip.rank ≤ range.endIP.rank := by
  obtain ⟨hversion, hne⟩ := h.version_eq
  obtain ⟨hsame, hstart, hend⟩ := hip
  constructor
  · exact (IPAddress.lt_eq_false_iff_rank hsame (hsame ▸ hne)).mp hstart
  · exact (IPAddress.lt_eq_false_iff_rank (hversion.trans hsame.symm) (hversion ▸ hne)).mp hend

/-- A range that is not inverted covers an address. -/
theorem covers_iff (h : range.OneVersion) :
    (∃ ip, range.Covers ip) ↔ range.startIP.rank ≤ range.endIP.rank := by
  constructor
  · rintro ⟨ip, hip⟩
    obtain ⟨hstart, hend⟩ := rank_of_covers h hip
    exact Nat.le_trans hstart hend
  · intro hle
    exact ⟨range.startIP, covers_start h hle⟩

/-- Of two ranges that share no address, one lies before the other. -/
theorem not_overlaps_iff (hA : rangeA.OneVersion) (hB : rangeB.OneVersion)
    (hleA : rangeA.startIP.rank ≤ rangeA.endIP.rank)
    (hleB : rangeB.startIP.rank ≤ rangeB.endIP.rank) :
    ¬ rangeA.Overlaps rangeB ↔ rangeA.endIP.rank < rangeB.startIP.rank ∨
      rangeB.endIP.rank < rangeA.startIP.rank := by
  constructor
  · intro hnot
    by_contra hmeet
    rw [not_or, Nat.not_lt, Nat.not_lt] at hmeet
    -- The later one of the two starts is in both.
    have hversion : rangeA.startIP.version = rangeB.startIP.version := by
      cases hA with
      | v4 a a' =>
        cases hB with
        | v4 b b' => rfl
        | v6 b b' => exact absurd (IPAddress.rank_v4_lt a' b) (Nat.not_lt.mpr hmeet.1)
      | v6 a a' =>
        cases hB with
        | v4 b b' => exact absurd (IPAddress.rank_v4_lt b' a) (Nat.not_lt.mpr hmeet.2)
        | v6 b b' => rfl
    obtain ⟨hvA, hneA⟩ := hA.version_eq
    obtain ⟨hvB, hneB⟩ := hB.version_eq
    rcases Nat.le_total rangeA.startIP.rank rangeB.startIP.rank with hle | hle
    · apply hnot
      refine ⟨rangeB.startIP, ⟨hversion.symm, ?_, ?_⟩, covers_start hB hleB⟩
      · exact (IPAddress.lt_eq_false_iff_rank hversion.symm hneB).mpr hle
      · exact (IPAddress.lt_eq_false_iff_rank (hvA.trans hversion) (hvA ▸ hneA)).mpr hmeet.1
    · apply hnot
      refine ⟨rangeA.startIP, covers_start hA hleA, ⟨hversion, ?_, ?_⟩⟩
      · exact (IPAddress.lt_eq_false_iff_rank hversion hneA).mpr hle
      · exact (IPAddress.lt_eq_false_iff_rank (hvB.trans hversion.symm) (hvB ▸ hneB)).mpr hmeet.2
  · rintro hbefore ⟨ip, hipA, hipB⟩
    obtain ⟨hstartA, hendA⟩ := rank_of_covers hA hipA
    obtain ⟨hstartB, hendB⟩ := rank_of_covers hB hipB
    omega

end AddressRange

/-! ### The rules -/

/-- What the format asks of the ranges. -/
structure RouteRules (ranges : List AddressRange) : Prop where
  nonempty : ∀ range ∈ ranges, range.endIP.lt range.startIP = false
  versions : ranges.Pairwise fun rangeA rangeB =>
    rangeA.startIP.isV4 = false → rangeB.startIP.isV4 = false
  disjoint : ranges.Pairwise fun rangeA rangeB =>
    rangeA.startIP.version = rangeB.startIP.version → rangeA.endIP.lt rangeB.startIP = true

/-- Every range covers an address, and no two neighbours share one. -/
def Separate (ranges : List AddressRange) : Prop :=
  (∀ range ∈ ranges, ∃ ip, range.Covers ip) ∧
    ranges.IsChain fun rangeA rangeB => ¬ rangeA.Overlaps rangeB

section Rules

variable {ranges : List AddressRange} (h : ∀ range ∈ ranges, range.OneVersion)

include h

/-- The rules, on the line. -/
theorem routeRules_iff_rank : RouteRules ranges ↔
    (∀ range ∈ ranges, range.startIP.rank ≤ range.endIP.rank) ∧
      ranges.Pairwise fun rangeA rangeB => rangeA.endIP.rank < rangeB.startIP.rank := by
  have hle : ∀ range ∈ ranges, (range.endIP.lt range.startIP = false ↔
      range.startIP.rank ≤ range.endIP.rank) := by
    intro range hrange
    obtain ⟨hversion, hne⟩ := (h range hrange).version_eq
    exact IPAddress.lt_eq_false_iff_rank hversion (hversion ▸ hne)
  constructor
  · rintro ⟨hnonempty, hversions, hdisjoint⟩
    refine ⟨fun range hrange => (hle range hrange).mp (hnonempty range hrange), ?_⟩
    refine (hversions.and hdisjoint).imp_of_mem fun {rangeA rangeB} hA hB hpair => ?_
    obtain ⟨hversion, hbefore⟩ := hpair
    rw [← AddressRange.rangeLess_iff (h _ hA) (h _ hB)]
    have hA := h _ hA
    have hB := h _ hB
    cases hA with
    | v4 a a' =>
      cases hB with
      | v4 b b' => simpa [rangeLess, IPAddress.isV4, IPAddress.version] using hbefore rfl
      | v6 b b' => rfl
    | v6 a a' =>
      cases hB with
      | v4 b b' => cases hversion rfl
      | v6 b b' => simpa [rangeLess, IPAddress.isV4, IPAddress.version] using hbefore rfl
  · rintro ⟨hranks, hpairs⟩
    refine ⟨fun range hrange => (hle range hrange).mpr (hranks range hrange), ?_, ?_⟩
    · refine hpairs.imp_of_mem fun {rangeA rangeB} hA hB hbefore hv6 => ?_
      have hA := h _ hA
      have hB := h _ hB
      cases hA with
      | v4 a a' => cases hv6
      | v6 a a' =>
        cases hB with
        | v4 b b' =>
          have hlt := IPAddress.rank_v4_lt b a'
          dsimp only at hbefore
          omega
        | v6 b b' => rfl
    · refine hpairs.imp_of_mem fun {rangeA rangeB} hA _ hbefore hsame => ?_
      obtain ⟨hversion, hne⟩ := (h _ hA).version_eq
      exact (IPAddress.lt_iff_rank (hversion.trans hsame) (hversion ▸ hne)).mpr hbefore

omit h in
/-- Ranges that lie before their neighbours lie before all that follow. -/
theorem pairwise_of_isChain (hle : ∀ range ∈ ranges, range.startIP.rank ≤ range.endIP.rank)
    (hchain : ranges.IsChain fun rangeA rangeB => rangeA.endIP.rank < rangeB.startIP.rank) :
    ranges.Pairwise fun rangeA rangeB => rangeA.endIP.rank < rangeB.startIP.rank := by
  induction ranges with
  | nil => exact .nil
  | cons first ranges ih =>
    cases ranges with
    | nil => exact List.pairwise_singleton ..
    | cons second ranges =>
      rw [List.isChain_cons_cons] at hchain
      obtain ⟨hbefore, hchain⟩ := hchain
      have hpairs := ih (fun range hrange => hle range (List.mem_cons_of_mem _ hrange)) hchain
      refine List.pairwise_cons.mpr ⟨fun range hrange => ?_, hpairs⟩
      rcases List.mem_cons.mp hrange with rfl | hrange
      · exact hbefore
      · have hnext := (List.pairwise_cons.mp hpairs).1 range hrange
        have hsecond := hle second (List.mem_cons_of_mem _ List.mem_cons_self)
        omega

/-- What the check of the parser leaves: no range lies wholly before the one in front of it. -/
theorem isSorted_iff_isChain : isSorted rangeLess ranges = true ↔
    ranges.IsChain fun rangeA rangeB => rangeA.startIP.rank ≤ rangeB.endIP.rank := by
  induction ranges with
  | nil => exact ⟨fun _ => .nil, fun _ => rfl⟩
  | cons first ranges ih =>
    cases ranges with
    | nil => exact ⟨fun _ => .singleton _, fun _ => rfl⟩
    | cons second ranges =>
      have hless := AddressRange.rangeLess_iff (h second (by simp)) (h first (by simp))
      rw [isSorted, Bool.and_eq_true, List.isChain_cons_cons,
        ih fun range hrange => h range (List.mem_cons_of_mem _ hrange), Bool.not_eq_true',
        ← Nat.not_lt, ← hless, Bool.not_eq_true]

/-- On a list that passes the check, the rules are about single ranges and neighbours. -/
theorem routeRules_iff_separate (hsorted : isSorted rangeLess ranges = true) :
    RouteRules ranges ↔ Separate ranges := by
  rw [isSorted_iff_isChain h] at hsorted
  rw [routeRules_iff_rank h]
  have hcovers : ∀ range ∈ ranges, ((∃ ip, range.Covers ip) ↔
      range.startIP.rank ≤ range.endIP.rank) :=
    fun range hrange => AddressRange.covers_iff (h range hrange)
  constructor
  · rintro ⟨hle, hpairs⟩
    refine ⟨fun range hrange => (hcovers range hrange).mpr (hle range hrange), ?_⟩
    refine hpairs.isChain.imp_of_mem_imp fun rangeA rangeB hA hB hbefore => ?_
    rw [AddressRange.not_overlaps_iff (h _ hA) (h _ hB) (hle _ hA) (hle _ hB)]
    exact .inl hbefore
  · rintro ⟨hnonempty, hchain⟩
    have hle : ∀ range ∈ ranges, range.startIP.rank ≤ range.endIP.rank :=
      fun range hrange => (hcovers range hrange).mp (hnonempty range hrange)
    refine ⟨hle, pairwise_of_isChain hle ?_⟩
    rw [List.isChain_iff_getElem] at hchain hsorted ⊢
    intro i hi
    have hA : ranges[i] ∈ ranges := List.getElem_mem ..
    have hB : ranges[i + 1] ∈ ranges := List.getElem_mem ..
    have hapart := hchain i hi
    have hafter := hsorted i hi
    rw [AddressRange.not_overlaps_iff (h _ hA) (h _ hB) (hle _ hA) (hle _ hB)] at hapart
    omega

end Rules

/-! ### What the parser accepts -/

/-- A route advertisement that the parser returns is its payload, and has passed the check. -/
theorem routeAdvertisement_of_parseCapsule {body : IOBuf} {ranges : List AddressRange}
    (h : parseCapsule body = .ok (some (.routeAdvertisement ranges))) :
    ∃ p, HasHeader body.bytes CapsuleType.ROUTE_ADVERTISEMENT.code p ∧
      Format.Many RangeFormat ranges p ∧ isSorted rangeLess ranges = true := by
  by_cases hheader : ∃ type p, HasHeader body.bytes type p
  · obtain ⟨type, p, hp⟩ := hheader
    obtain ⟨n, t, l, ht, hl, hbody⟩ := id hp
    rw [parseCapsule_of_header ht hl hbody, except_bind_eq_ok] at h
    obtain ⟨datagram, -, h⟩ := h
    have hcode : CapsuleType.ofCode type ≠ .UNKNOWN → (CapsuleType.ofCode type).code = type :=
      CapsuleType.code_ofCode
    unfold parsePayload at h
    cases htype : CapsuleType.ofCode type with
    | ROUTE_ADVERTISEMENT =>
      rw [htype] at h hcode
      simp only [except_bind_eq_ok, all_parseRange_iff, check_eq_ok, pure, Except.pure,
        Except.ok.injEq, Option.some.injEq, CapsuleOf.routeAdvertisement.injEq] at h
      obtain ⟨ranges', hmany, -, hsorted, rfl⟩ := h
      rw [hcode (by decide)]
      exact ⟨p, hp, hmany, hsorted⟩
    | DATA =>
      rw [htype] at h
      simp only [except_bind_eq_ok] at h
      obtain ⟨⟨contextID, rest⟩, -, h⟩ := h
      cases contextID with
      | none => cases h
      | some result =>
        simp only [except_bind_eq_ok] at h
        obtain ⟨data, -, h⟩ := h
        cases h
    | ADDRESS_ASSIGN =>
      rw [htype] at h
      simp only [except_bind_eq_ok] at h
      obtain ⟨addresses, -, h⟩ := h
      cases h
    | ADDRESS_REQUEST =>
      rw [htype] at h
      simp only [except_bind_eq_ok] at h
      obtain ⟨addresses, -, -, -, h⟩ := h
      cases h
    | UNKNOWN =>
      rw [htype] at h
      cases h
  · rw [parseCapsule_of_no_header fun type p hp => hheader ⟨type, p, hp⟩] at h
    cases h

theorem oneVersion_of_many {ranges : List AddressRange} {p : Bytes}
    (h : Format.Many RangeFormat ranges p) : ∀ range ∈ ranges, range.OneVersion := by
  induction h with
  | nil => exact fun range hrange => by cases hrange
  | cons hfirst _ ih =>
    exact List.forall_mem_cons.mpr ⟨AddressRange.oneVersion_of_format hfirst, ih⟩

/-- The ranges of an advertisement that the parser accepts keep the rules exactly when each
range of the payload covers an address and no two neighbours share one. -/
theorem routeAdvertisement_rules_iff (body : IOBuf) (accepted : List AddressRange)
    (haccepted : parseCapsule body = .ok (some (.routeAdvertisement accepted))) :
    ∃ p ranges, HasHeader body.bytes CapsuleType.ROUTE_ADVERTISEMENT.code p ∧
      Format.Many RangeFormat ranges p ∧ (RouteRules accepted ↔ Separate ranges) := by
  obtain ⟨p, hheader, hmany, hsorted⟩ := routeAdvertisement_of_parseCapsule haccepted
  exact ⟨p, accepted, hheader, hmany, routeRules_iff_separate (oneVersion_of_many hmany) hsorted⟩

/-- `10.0.0.1 - 10.0.0.4`, then `10.0.0.5 - 10.0.0.9`. -/
theorem routeAdvertisement_rules_twoRanges :
    ∃ p ranges, HasHeader (IOBuf.wrapBuffer [3, 20, 4, 10, 0, 0, 1, 10, 0, 0, 4, 4,
        4, 10, 0, 0, 5, 10, 0, 0, 9, 4]).bytes CapsuleType.ROUTE_ADVERTISEMENT.code p ∧
      Format.Many RangeFormat ranges p ∧
      (RouteRules [⟨.v4 (.ofOctets 10 0 0 1), .v4 (.ofOctets 10 0 0 4)⟩,
        ⟨.v4 (.ofOctets 10 0 0 5), .v4 (.ofOctets 10 0 0 9)⟩] ↔ Separate ranges) :=
  routeAdvertisement_rules_iff _ _ (by decide +kernel)

/-- The second range starts inside the first one. -/
theorem routeAdvertisement_breaks_rules :
    parseCapsule (.wrapBuffer [3, 20, 4, 10, 0, 0, 1, 10, 0, 0, 8, 4,
        4, 10, 0, 0, 5, 10, 0, 0, 9, 4]) =
      .ok (some (.routeAdvertisement [⟨.v4 (.ofOctets 10 0 0 1), .v4 (.ofOctets 10 0 0 8)⟩,
        ⟨.v4 (.ofOctets 10 0 0 5), .v4 (.ofOctets 10 0 0 9)⟩])) ∧
    ¬ RouteRules [⟨.v4 (.ofOctets 10 0 0 1), .v4 (.ofOctets 10 0 0 8)⟩,
        ⟨.v4 (.ofOctets 10 0 0 5), .v4 (.ofOctets 10 0 0 9)⟩] := by
  refine ⟨by decide +kernel, fun hrules => ?_⟩
  have hbefore := (List.pairwise_cons.mp hrules.disjoint).1 _ List.mem_cons_self rfl
  revert hbefore
  decide

end MasqueQuic
