/-
Who owns the entries of the worker's maps.

A transport that is bound owns the IDs that it has in use or is about to retire, and `Tables` says that
the maps hold only what bound transports own and that no two of them own one ID. `KeepsEntries` is what
the functions of a transport do to the maps where the IDs that are taken are fresh: the tables stay in
order if the transport is unbound only as `UnbindsCleanly` says.
-/

import Mathlib.Data.List.Nodup
import MasqueQuic.Quic.ClosingCallbacks

namespace MasqueQuic

/-- The transport has the ID in use, or is about to retire it. -/
def ServerTransport.Owns {α ι : Type} (transport : ServerTransport α ι) (id : ι) : Prop :=
  id ∈ transport.selfConnectionIds.map (·.connId) ∨ id ∈ transport.connIdsRetiringSoon

namespace WorkerWorld

variable {α ι : Type}

/-! ### Tables -/

/-- What the claim of the tables is about: every ID maps to a transport that owns it, and no map holds
a transport that is not bound. -/
structure RoutingTables (w : WorkerWorld α ι) : Prop where
  owned : ∀ entry ∈ w.connectionIdMap, (w.transport entry.2).Owns entry.1
  connectionIds : ∀ t, (w.transport t).routingCb = false → t ∉ w.connectionIdMap.map (·.2)
  sources : ∀ t, (w.transport t).routingCb = false → t ∉ w.sourceAddressMap.map (·.2)
  bound : ∀ t, (w.transport t).routingCb = false → t ∉ w.boundServerTransports

/-- The entries of other transports are there still. -/
structure OthersStay (t : Nat) (w w' : WorkerWorld α ι) : Prop where
  connectionIds : ∀ entry ∈ w.connectionIdMap, entry.2 ≠ t → entry ∈ w'.connectionIdMap
  sources : ∀ entry ∈ w.sourceAddressMap, entry.2 ≠ t → entry ∈ w'.sourceAddressMap

theorem OthersStay.refl (t : Nat) (w : WorkerWorld α ι) : OthersStay t w w :=
  ⟨fun _ h _ => h, fun _ h _ => h⟩

theorem OthersStay.trans {t : Nat} {w w' w'' : WorkerWorld α ι} (h : OthersStay t w w')
    (h' : OthersStay t w' w'') : OthersStay t w w'' where
  connectionIds entry hentry hne := h'.connectionIds entry (h.connectionIds entry hentry hne) hne
  sources entry hentry hne := h'.sources entry (h.sources entry hentry hne) hne

/-- No other bound transport owns the ID. -/
def FreshFor (t : Nat) (id : ι) (w : WorkerWorld α ι) : Prop :=
  ∀ u, u ≠ t → (w.transport u).routingCb = true → ¬ (w.transport u).Owns id

/-- No other transport is found under the source of this one. -/
def OwnSource (t : Nat) (w : WorkerWorld α ι) : Prop :=
  ∀ u, ((w.transport t).source, u) ∈ w.sourceAddressMap → u = t

/-- The invariant of the maps. -/
structure Tables (w : WorkerWorld α ι) : Prop where
  created : ∀ u, (w.transport u).routingCb = true → u < w.created
  owned : ∀ entry ∈ w.connectionIdMap, (w.transport entry.2).routingCb = true ∧
    (w.transport entry.2).Owns entry.1
  source : ∀ entry ∈ w.sourceAddressMap, (w.transport entry.2).routingCb = true ∧
    (w.transport entry.2).source = entry.1
  bound : ∀ u ∈ w.boundServerTransports, (w.transport u).routingCb = true
  disjoint : ∀ u v id, u ≠ v → (w.transport u).routingCb = true →
    (w.transport v).routingCb = true → (w.transport u).Owns id → ¬ (w.transport v).Owns id
  sourceKeys : (w.sourceAddressMap.map (·.1)).Nodup

theorem Tables.routingTables {w : WorkerWorld α ι} (h : w.Tables) : w.RoutingTables where
  owned entry hentry := (h.owned entry hentry).2
  connectionIds t hunbound := by
    intro hmem
    obtain ⟨entry, hentry, rfl⟩ := List.mem_map.mp hmem
    rw [(h.owned entry hentry).1] at hunbound
    cases hunbound
  sources t hunbound := by
    intro hmem
    obtain ⟨entry, hentry, rfl⟩ := List.mem_map.mp hmem
    rw [(h.source entry hentry).1] at hunbound
    cases hunbound
  bound t hunbound := by
    intro hmem
    rw [h.bound t hmem] at hunbound
    cases hunbound

/-- A step of one transport keeps the tables if its own entries and IDs are in order afterwards. -/
theorem Tables.step {t : Nat} {w w' : WorkerWorld α ι} (h : w.Tables)
    (hframe : ∀ u, u ≠ t → w'.transport u = w.transport u) (hcreated : w'.created = w.created)
    (hrouting : (w'.transport t).routingCb = true → (w.transport t).routingCb = true)
    (howned : ∀ entry ∈ w'.connectionIdMap, entry.2 = t →
      (w'.transport t).routingCb = true ∧ (w'.transport t).Owns entry.1)
    (hothers : ∀ entry ∈ w'.connectionIdMap, entry.2 ≠ t → entry ∈ w.connectionIdMap)
    (hsource : w'.sourceAddressMap.Sublist w.sourceAddressMap)
    (hown : ∀ entry ∈ w'.sourceAddressMap, entry.2 = t →
      (w'.transport t).routingCb = true ∧ (w'.transport t).source = (w.transport t).source)
    (hbound : ∀ u ∈ w'.boundServerTransports,
      if u = t then (w'.transport t).routingCb = true else u ∈ w.boundServerTransports)
    (hids : (w'.transport t).routingCb = true → ∀ id, (w'.transport t).Owns id →
      (w.transport t).Owns id ∨ w.FreshFor t id) : w'.Tables where
  created u hu := by
    rw [hcreated]
    by_cases hut : u = t
    · subst hut
      exact h.created u (hrouting hu)
    · rw [hframe u hut] at hu
      exact h.created u hu
  owned entry hentry := by
    by_cases hut : entry.2 = t
    · rw [hut]
      exact howned entry hentry hut
    · rw [hframe entry.2 hut]
      exact h.owned entry (hothers entry hentry hut)
  source entry hentry := by
    have hbefore := h.source entry (hsource.subset hentry)
    by_cases hut : entry.2 = t
    · rw [hut] at hbefore ⊢
      obtain ⟨hr, hs⟩ := hown entry hentry hut
      exact ⟨hr, hs.trans hbefore.2⟩
    · rw [hframe entry.2 hut]
      exact hbefore
  bound u hu := by
    have hu' := hbound u hu
    by_cases hut : u = t
    · rw [if_pos hut] at hu'
      rw [hut]
      exact hu'
    · rw [if_neg hut] at hu'
      rw [hframe u hut]
      exact h.bound u hu'
  disjoint u v id huv hu hv howns hclash := by
    by_cases hut : u = t
    · subst hut
      rw [hframe v huv.symm] at hv hclash
      rcases hids hu id howns with hold | hfresh
      · exact h.disjoint u v id huv (hrouting hu) hv hold hclash
      · exact hfresh v huv.symm hv hclash
    · rw [hframe u hut] at hu howns
      by_cases hvt : v = t
      · subst hvt
        rcases hids hv id hclash with hold | hfresh
        · exact h.disjoint u v id huv hu (hrouting hv) howns hold
        · exact hfresh u huv hu howns
      · rw [hframe v hvt] at hv hclash
        exact h.disjoint u v id huv hu hv howns hclash
  sourceKeys := h.sourceKeys.sublist (hsource.map _)

/-! ### Steps of one transport -/

/-- A transport that may be unbound as `last`: it has an ID of its own and none left to retire, and owns
what is found under its source. -/
structure Unbindable (t : Nat) (last : ServerTransport α ι) (w : WorkerWorld α ι) : Prop where
  ownSource : w.OwnSource t
  serverConnectionId : last.serverConnectionId ≠ none
  connIdsRetiringSoon : last.connIdsRetiringSoon = []

/-- The ID of the server may be given to the worker. -/
def Routable (t : Nat) (w : WorkerWorld α ι) : Prop :=
  (w.transport t).closeState ≠ .closed → ∀ id, (w.transport t).serverConnectionId = some id →
    (w.transport t).notifiedRouting = false → (w.transport t).Owns id

/-- There is no ID of the server to be given to the worker. -/
def Announced (t : Nat) (w : WorkerWorld α ι) : Prop :=
  (w.transport t).closeState ≠ .closed → (w.transport t).serverConnectionId ≠ none →
    (w.transport t).notifiedRouting = true

theorem Announced.routable {t : Nat} {w : WorkerWorld α ι} (h : w.Announced t) : w.Routable t := by
  intro hopen id hserver hnotified
  rw [h hopen (by rw [hserver]; simp)] at hnotified
  cases hnotified

/-- If the transport is unbound in between, it may be. -/
def UnbindsCleanly (t : Nat) (w w' : WorkerWorld α ι) : Prop :=
  ∀ last, w'.unbindings = (t, last) :: w.unbindings → w.Unbindable t last

/-- The transport is unbound in between. -/
def Unbinds (t : Nat) (w w' : WorkerWorld α ι) : Prop :=
  (w.transport t).routingCb = true ∧ (w'.transport t).routingCb = false ∧
    ∃ last, w'.unbindings = (t, last) :: w.unbindings

/-- What the functions of a transport do to the maps. -/
structure KeepsEntries (t : Nat) (w w' : WorkerWorld α ι) : Prop extends Binds t w w' where
  ownSource : w.OwnSource t → w'.OwnSource t
  routable : w.Routable t → w'.Routable t
  unbindings : w.IsBound t → w'.unbindings = w.unbindings ∨ Unbinds t w w'
  tables : w.IsBound t → w.Tables → UnbindsCleanly t w w' → w'.Tables ∧ OthersStay t w w'

namespace KeepsEntries

variable {t : Nat} {w w' w'' : WorkerWorld α ι}

/-- What is unbound is not unbound again. -/
theorem unbindings_of_unbound (h : KeepsEntries t w w') (hb : w.IsBound t)
    (hr : (w.transport t).routingCb = false) : w'.unbindings = w.unbindings := by
  rcases h.unbindings hb with hsame | ⟨hr', -⟩
  · exact hsame
  · rw [hr] at hr'
    cases hr'

theorem bound_of_bound (h : KeepsEntries t w w') (hb : w.IsBound t)
    (hr : (w'.transport t).routingCb = true) : (w.transport t).routingCb = true := by
  by_contra hunbound
  rw [(h.unbound hb (eq_false_of_ne_true hunbound)).1] at hr
  cases hr

theorem trans (h : KeepsEntries t w w') (h' : KeepsEntries t w' w'') : KeepsEntries t w w'' where
  toBinds := h.toBinds.trans h'.toBinds
  ownSource hown := h'.ownSource (h.ownSource hown)
  routable hroutable := h'.routable (h.routable hroutable)
  unbindings hb := by
    have hb' := h.isBound hb
    rcases h.unbindings hb with hsame | ⟨hr, hr', hlast⟩
    · rcases h'.unbindings hb' with hsame' | ⟨hr, hr', hlast⟩
      · exact .inl (hsame'.trans hsame)
      · rw [hsame] at hlast
        exact .inr ⟨h.bound_of_bound hb hr, hr', hlast⟩
    · rw [← h'.unbindings_of_unbound hb' hr'] at hlast
      exact .inr ⟨hr, (h'.unbound hb' hr').1, hlast⟩
  tables hb htables hclean := by
    have hb' := h.isBound hb
    have hfirst : UnbindsCleanly t w w' := by
      intro last hlast
      apply hclean last
      rcases h.unbindings hb with hsame | ⟨-, hr', -⟩
      · rw [hsame] at hlast
        exact absurd hlast (List.cons_ne_self _ _).symm
      · rw [h'.unbindings_of_unbound hb' hr']
        exact hlast
    have hsecond : UnbindsCleanly t w' w'' := by
      intro last hlast
      rcases h.unbindings hb with hsame | ⟨-, hr', -⟩
      · rw [hsame] at hlast
        obtain ⟨hown, hserver, hretiring⟩ := hclean last hlast
        exact ⟨h.ownSource hown, hserver, hretiring⟩
      · rw [h'.unbindings_of_unbound hb' hr'] at hlast
        exact absurd hlast (List.cons_ne_self _ _).symm
    obtain ⟨htables', hstay⟩ := h.tables hb htables hfirst
    obtain ⟨htables'', hstay'⟩ := h'.tables hb' htables' hsecond
    exact ⟨htables'', hstay.trans hstay'⟩

/-- The maps are as they were, and so is what they are judged by. -/
theorem of_same (hbinds : Binds t w w') (hids : w'.connectionIdMap = w.connectionIdMap)
    (hsources : w'.sourceAddressMap = w.sourceAddressMap)
    (hbound : w'.boundServerTransports = w.boundServerTransports)
    (hunbindings : w'.unbindings = w.unbindings)
    (hsource : (w'.transport t).source = (w.transport t).source)
    (hrouting : (w'.transport t).routingCb = (w.transport t).routingCb)
    (hserver : (w'.transport t).serverConnectionId = (w.transport t).serverConnectionId)
    (hnotified : (w.transport t).notifiedRouting = true →
      (w'.transport t).notifiedRouting = true)
    (hself : (w'.transport t).selfConnectionIds = (w.transport t).selfConnectionIds)
    (hretiring : (w'.transport t).connIdsRetiringSoon = (w.transport t).connIdsRetiringSoon) :
    KeepsEntries t w w' where
  toBinds := hbinds
  ownSource hown := by
    unfold OwnSource
    rw [hsource, hsources]
    exact hown
  routable hroutable := by
    intro hopen id hid hnot
    rw [hserver] at hid
    have hopen' : (w.transport t).closeState ≠ .closed := fun hc => hopen (hbinds.closed hc)
    have hnot' : (w.transport t).notifiedRouting = false := by
      by_contra htrue
      rw [hnotified (Bool.not_eq_false _ ▸ htrue)] at hnot
      cases hnot
    unfold ServerTransport.Owns
    rw [hself, hretiring]
    exact hroutable hopen' id hid hnot'
  unbindings _ := .inl hunbindings
  tables _ htables _ := by
    have howns : ∀ id, (w'.transport t).Owns id ↔ (w.transport t).Owns id := by
      intro id
      unfold ServerTransport.Owns
      rw [hself, hretiring]
    constructor
    · apply htables.step hbinds.frame hbinds.created
      · rw [hrouting]
        exact id
      · rintro entry hentry rfl
        rw [hids] at hentry
        rw [hrouting, howns]
        exact htables.owned entry hentry
      · intro entry hentry _
        rwa [hids] at hentry
      · rw [hsources]
      · rintro entry hentry rfl
        rw [hsources] at hentry
        rw [hrouting]
        exact ⟨(htables.source entry hentry).1, hsource⟩
      · intro u hu
        rw [hbound] at hu
        split
        · next hut =>
            rw [hrouting, ← hut]
            exact htables.bound u hu
        · exact hu
      · exact fun _ id hid => .inl ((howns id).mp hid)
    · constructor
      · rw [hids]
        exact fun _ hentry _ => hentry
      · rw [hsources]
        exact fun _ hentry _ => hentry

theorem modify {f : ServerTransport α ι → ServerTransport α ι}
    (hbinds : Binds t w (w.modify t f)) (hsource : (f (w.transport t)).source = (w.transport t).source)
    (hrouting : (f (w.transport t)).routingCb = (w.transport t).routingCb)
    (hserver : (f (w.transport t)).serverConnectionId = (w.transport t).serverConnectionId)
    (hnotified : (w.transport t).notifiedRouting = true →
      (f (w.transport t)).notifiedRouting = true)
    (hself : (f (w.transport t)).selfConnectionIds = (w.transport t).selfConnectionIds)
    (hretiring : (f (w.transport t)).connIdsRetiringSoon =
      (w.transport t).connIdsRetiringSoon) : KeepsEntries t w (w.modify t f) := by
  apply of_same hbinds rfl rfl rfl rfl
  all_goals rw [transport_modify]
  · exact hsource
  · exact hrouting
  · exact hserver
  · exact hnotified
  · exact hself
  · exact hretiring

theorem refl (t : Nat) (w : WorkerWorld α ι) : KeepsEntries t w w :=
  of_same (.of_transport rfl rfl) rfl rfl rfl rfl rfl rfl rfl id rfl rfl

end KeepsEntries

variable [DecidableEq α] [DecidableEq ι] {t : Nat} {w : WorkerWorld α ι}

/-! ### Erasing and adding -/

omit [DecidableEq α] [DecidableEq ι] in
theorem mem_eraseEntry {κ : Type} [DecidableEq κ] {key : κ} {map : List (κ × Nat)}
    {entry : κ × Nat} : entry ∈ eraseEntry key map ↔ entry ∈ map ∧ entry.1 ≠ key := by
  unfold eraseEntry
  simp

omit [DecidableEq α] [DecidableEq ι] in
theorem mem_emplaceEntry {κ : Type} [DecidableEq κ] {key : κ} {map : List (κ × Nat)}
    {entry : κ × Nat} (h : entry ∈ emplaceEntry key t map) : entry = (key, t) ∨ entry ∈ map := by
  unfold emplaceEntry at h
  split at h
  · exact .inr h
  · exact List.mem_cons.mp h

omit [DecidableEq α] in
theorem mem_foldl_eraseEntry {β : Type} (key : β → ι) (keys : List β) (map : List (ι × Nat))
    (entry : ι × Nat) : entry ∈ keys.foldl (fun map k => eraseEntry (key k) map) map ↔
      entry ∈ map ∧ entry.1 ∉ keys.map key := by
  induction keys generalizing map with
  | nil => simp
  | cons k keys ih =>
    rw [List.foldl_cons, ih, mem_eraseEntry, List.map_cons, List.mem_cons]
    tauto

omit [DecidableEq α] in
theorem connectionIdMap_foldl_onConnectionIdRetired (ids : List ι) (w : WorkerWorld α ι) :
    (ids.foldl (fun w id => w.onConnectionIdRetired id) w).connectionIdMap =
      ids.foldl (fun map id => eraseEntry id map) w.connectionIdMap := by
  induction ids generalizing w with
  | nil => rfl
  | cons id ids ih => exact ih (w.onConnectionIdRetired id)

omit [DecidableEq α] in
theorem sourceAddressMap_foldl_onConnectionIdRetired (ids : List ι) (w : WorkerWorld α ι) :
    (ids.foldl (fun w id => w.onConnectionIdRetired id) w).sourceAddressMap =
        w.sourceAddressMap ∧
      (ids.foldl (fun w id => w.onConnectionIdRetired id) w).boundServerTransports =
        w.boundServerTransports ∧
      (ids.foldl (fun w id => w.onConnectionIdRetired id) w).unbindings = w.unbindings := by
  induction ids generalizing w with
  | nil => exact ⟨rfl, rfl, rfl⟩
  | cons id ids ih => exact ih (w.onConnectionIdRetired id)

/-- A transport with an ID of its own takes its entries with it. -/
theorem unbindConnection_eq (hr : (w.transport t).routingCb = true)
    (hserver : (w.transport t).serverConnectionId ≠ none) :
    (w.unbindConnection t).connectionIdMap = (w.transport t).selfConnectionIds.foldl
        (fun map data => eraseEntry data.connId map) w.connectionIdMap ∧
      (w.unbindConnection t).sourceAddressMap =
        eraseEntry (w.transport t).source w.sourceAddressMap ∧
      (w.unbindConnection t).boundServerTransports = w.boundServerTransports.filter (· ≠ t) := by
  unfold unbindConnection
  rw [if_pos hr]
  dsimp only
  rw [if_pos]
  · unfold onConnectionUnbound
    rw [transport_modify]
    exact ⟨rfl, rfl, rfl⟩
  · rw [transport_modify]
    exact Option.isSome_iff_ne_none.mpr hserver

theorem unbindings_unbindConnection (hr : (w.transport t).routingCb = true) :
    (w.unbindConnection t).unbindings = (t, w.transport t) :: w.unbindings := by
  unfold unbindConnection
  rw [if_pos hr]
  dsimp only
  split
  · rfl
  · rfl

theorem sourceAddressMap_unbindConnection :
    (w.unbindConnection t).sourceAddressMap.Sublist w.sourceAddressMap := by
  unfold unbindConnection
  split
  · dsimp only
    split
    · exact List.filter_sublist
    · exact List.Sublist.refl _
  · exact List.Sublist.refl _

/-! ### Closing -/

theorem keepsEntries_unbind (t : Nat) (w : WorkerWorld α ι)
    (hclosed : (w.transport t).closeState = .closed) : KeepsEntries t w (w.unbindConnection t) where
  toBinds := (closingSteps_binds t).unbind w hclosed
  ownSource hown := by
    intro u hu
    rw [transport_unbindConnection] at hu
    exact hown u (sourceAddressMap_unbindConnection.subset hu)
  routable hroutable := by
    unfold Routable
    rw [transport_unbindConnection]
    exact hroutable
  unbindings _ := by
    by_cases hr : (w.transport t).routingCb = true
    · exact .inr ⟨hr, by rw [transport_unbindConnection], _, unbindings_unbindConnection hr⟩
    · rw [unbindConnection_of_unbound (eq_false_of_ne_true hr)]
      exact .inl rfl
  tables _ htables hclean := by
    by_cases hr : (w.transport t).routingCb = true
    · have hunbound : ((w.unbindConnection t).transport t).routingCb = false := by
        rw [transport_unbindConnection]
      obtain ⟨hown, hserver, hnil⟩ := hclean _ (unbindings_unbindConnection hr)
      obtain ⟨hids, hsources, hbound⟩ := unbindConnection_eq hr hserver
      have howns : ∀ id, (w.transport t).Owns id →
          id ∈ (w.transport t).selfConnectionIds.map (·.connId) := by
        intro id hid
        rcases hid with hself | hretiring
        · exact hself
        · rw [hnil] at hretiring
          cases hretiring
      constructor
      · apply htables.step (t := t)
        · exact fun u hu => transport_unbindConnection_of_ne hu
        · exact created_unbindConnection
        · intro h
          rw [hunbound] at h
          cases h
        · rintro entry hentry rfl
          rw [hids, mem_foldl_eraseEntry] at hentry
          exact absurd (howns _ (htables.owned entry hentry.1).2) hentry.2
        · intro entry hentry _
          rw [hids, mem_foldl_eraseEntry] at hentry
          exact hentry.1
        · exact sourceAddressMap_unbindConnection
        · rintro entry hentry rfl
          rw [hsources, mem_eraseEntry] at hentry
          exact absurd (htables.source entry hentry.1).2.symm hentry.2
        · intro u hu
          rw [hbound, List.mem_filter, decide_eq_true_eq] at hu
          rw [if_neg hu.2]
          exact hu.1
        · intro h
          rw [hunbound] at h
          cases h
      · constructor
        · intro entry hentry hne
          rw [hids, mem_foldl_eraseEntry]
          refine ⟨hentry, fun hself => ?_⟩
          obtain ⟨hr', howns'⟩ := htables.owned entry hentry
          exact htables.disjoint entry.2 t entry.1 hne hr' hr howns' (.inl hself)
        · intro entry hentry hne
          rw [hsources, mem_eraseEntry]
          refine ⟨hentry, fun hsource => hne (hown entry.2 ?_)⟩
          rw [← hsource]
          exact hentry
    · rw [Bool.not_eq_true] at hr
      rw [unbindConnection_of_unbound hr]
      exact ⟨htables, .refl t w⟩

theorem closingSteps_keepsEntries (t : Nat) : ClosingSteps t (KeepsEntries (α := α) (ι := ι) t) where
  refl w := .refl t w
  trans := KeepsEntries.trans
  closed h := h.closed
  count w n := by
    apply KeepsEntries.of_same ((closingSteps_binds t).count w n) rfl rfl rfl rfl
    all_goals rw [transport_modify]
    exact id
  close w hopen :=
    .modify ((closingSteps_binds t).close w hopen) rfl rfl rfl id rfl rfl
  resetCallbacks w :=
    .modify ((closingSteps_binds t).resetCallbacks w) rfl rfl rfl id rfl rfl
  closeGracefully w hopen :=
    .modify ((closingSteps_binds t).closeGracefully w hopen) rfl rfl rfl id rfl rfl
  drain w drainTimeout hclosed :=
    .modify ((closingSteps_binds t).drain w drainTimeout hclosed) rfl rfl rfl id rfl rfl
  unbind w hclosed := keepsEntries_unbind t w hclosed

/-! ### Notifications -/

omit [DecidableEq α] in
/-- A bound transport adds an ID that it owns. -/
theorem keepsEntries_onConnectionIdAvailable {id : ι} {w' : WorkerWorld α ι}
    (hsame : KeepsEntries t w w') (hr : (w'.transport t).routingCb = true)
    (howns : (w'.transport t).Owns id) : KeepsEntries t w (w'.onConnectionIdAvailable t id) := by
  refine hsame.trans ?_
  unfold onConnectionIdAvailable
  split
  · exact .refl t w'
  · constructor
    · exact .of_transport rfl rfl
    · exact fun hown => hown
    · exact fun hroutable => hroutable
    · exact fun _ => .inl rfl
    · intro _ htables _
      constructor
      · apply htables.step (t := t)
        · exact fun _ _ => rfl
        · rfl
        · exact fun h => h
        · rintro entry hentry hto
          rcases mem_emplaceEntry hentry with rfl | hold
          · exact ⟨hr, howns⟩
          · rw [← hto]
            exact htables.owned entry hold
        · intro entry hentry hne
          rcases mem_emplaceEntry hentry with rfl | hold
          · exact absurd rfl hne
          · exact hold
        · exact List.Sublist.refl _
        · intro entry _ _
          exact ⟨hr, rfl⟩
        · intro u hu
          split
          · exact hr
          · next hne =>
              dsimp only at hu
              split at hu
              · exact hu
              · rcases List.mem_cons.mp hu with rfl | hu
                · exact absurd rfl hne
                · exact hu
        · exact fun _ id hid => .inl hid
      · constructor
        · intro entry hentry _
          dsimp only [emplaceEntry]
          split
          · exact hentry
          · exact List.mem_cons_of_mem _ hentry
        · exact fun entry hentry _ => hentry

theorem keepsEntries_maybeNotifyRouting
    (howns : ∀ id, (w.transport t).serverConnectionId = some id →
      (w.transport t).notifiedRouting = false → (w.transport t).Owns id) :
    KeepsEntries t w (w.maybeNotifyRouting t) := by
  have hbinds := (transportSteps_binds t).notifyRouting w
  unfold maybeNotifyRouting
  split
  · exact .refl t w
  · next id hserver =>
      split
      · next hnotify =>
          have hnotified : KeepsEntries t w (w.modify t fun transport =>
              { transport with notifiedRouting := true }) :=
    .modify (.modify rfl rfl rfl rfl rfl) rfl rfl rfl (fun _ => rfl) rfl rfl
          apply keepsEntries_onConnectionIdAvailable hnotified
          all_goals rw [transport_modify]
          · exact hnotify.2
          · exact howns id hserver hnotify.1
      · exact .refl t w

theorem keepsEntries_onConnectionIdBound (t : Nat) (w : WorkerWorld α ι) :
    KeepsEntries t w (w.onConnectionIdBound t) := by
  unfold onConnectionIdBound
  split
  · next hfound =>
      have hsub : (eraseEntry (w.transport t).source w.sourceAddressMap).Sublist
          w.sourceAddressMap := List.filter_sublist
      constructor
      · exact .of_transport rfl rfl
      · exact fun hown u hu => hown u (hsub.subset hu)
      · exact fun hroutable => hroutable
      · exact fun _ => .inl rfl
      · intro _ htables _
        constructor
        · apply htables.step (t := t)
          · exact fun _ _ => rfl
          · rfl
          · exact fun h => h
          · rintro entry hentry rfl
            exact htables.owned entry hentry
          · exact fun entry hentry _ => hentry
          · exact hsub
          · rintro entry hentry rfl
            exact ⟨(htables.source entry (hsub.subset hentry)).1, rfl⟩
          · intro u hu
            split
            · next hut =>
                rw [← hut]
                exact htables.bound u hu
            · exact hu
          · exact fun _ id hid => .inl hid
        · constructor
          · exact fun entry hentry _ => hentry
          · intro entry hentry hne
            dsimp only
            rw [mem_eraseEntry]
            refine ⟨hentry, fun hsource => hne ?_⟩
            -- the key is there once, and it is found with this transport
            obtain ⟨found, hfind, hto⟩ := Option.map_eq_some_iff.mp hfound
            have hkey := List.find?_some hfind
            rw [decide_eq_true_eq] at hkey
            have heq : entry = found :=
              List.inj_on_of_nodup_map htables.sourceKeys hentry (List.mem_of_find?_eq_some hfind)
                (hsource.trans hkey.symm)
            rw [heq, hto]
  · exact .refl t w

theorem keepsEntries_maybeNotifyConnectionIdBound (t : Nat) (w : WorkerWorld α ι) :
    KeepsEntries t w (w.maybeNotifyConnectionIdBound t) := by
  unfold maybeNotifyConnectionIdBound
  split
  · have hnotified : KeepsEntries t w (w.modify t fun transport =>
        { transport with notifiedConnIdBound := true }) :=
    .modify (.modify rfl rfl rfl rfl rfl) rfl rfl rfl id rfl rfl
    exact hnotified.trans (keepsEntries_onConnectionIdBound t _)
  · exact .refl t w

/-- An ID may be retired when that of the server has been given to the worker. -/
theorem keepsEntries_maybeNotifyConnectionIdRetired (hannounced : w.Announced t) :
    KeepsEntries t w (w.maybeNotifyConnectionIdRetired t) := by
  have hbinds := (transportSteps_binds t).notifyRetired w
  unfold maybeNotifyConnectionIdRetired at hbinds ⊢
  split at hbinds
  · next hnotify =>
      rw [if_pos hnotify]
      obtain ⟨htransport, hcreated⟩ :=
        foldl_onConnectionIdRetired (w.transport t).connIdsRetiringSoon w
      obtain ⟨hsources, hbound, hunbindings⟩ :=
        sourceAddressMap_foldl_onConnectionIdRetired (w.transport t).connIdsRetiringSoon w
      have hids := connectionIdMap_foldl_onConnectionIdRetired
        (w.transport t).connIdsRetiringSoon w
      set w' := ((w.transport t).connIdsRetiringSoon.foldl (fun w id => w.onConnectionIdRetired id)
        w).modify t fun transport => { transport with connIdsRetiringSoon := [] } with hw'
      have hmem : ∀ entry : ι × Nat, entry ∈ w'.connectionIdMap ↔
          entry ∈ w.connectionIdMap ∧ entry.1 ∉ (w.transport t).connIdsRetiringSoon := by
        intro entry
        have hmem := mem_foldl_eraseEntry (fun id : ι => id)
          (w.transport t).connIdsRetiringSoon w.connectionIdMap entry
        rw [List.map_id'] at hmem
        rw [hw', connectionIdMap_modify, hids]
        exact hmem
      have hto : w'.transport t = { w.transport t with connIdsRetiringSoon := [] } := by
        rw [hw', transport_modify, htransport]
      constructor
      · exact hbinds
      · intro hown u hu
        rw [hto, hw', sourceAddressMap_modify, hsources] at hu
        exact hown u hu
      · intro _
        apply Announced.routable
        unfold Announced
        rw [hto]
        exact hannounced
      · exact fun _ => .inl hunbindings
      · intro _ htables _
        have hframe : ∀ u, u ≠ t → w'.transport u = w.transport u := hbinds.frame
        constructor
        · apply htables.step hframe hbinds.created
          · rw [hto]
            exact fun h => h
          · rintro entry hentry rfl
            obtain ⟨hold, hkept⟩ := (hmem entry).mp hentry
            obtain ⟨hr, howns⟩ := htables.owned entry hold
            rw [hto]
            exact ⟨hr, .inl (howns.resolve_right hkept)⟩
          · exact fun entry hentry _ => ((hmem entry).mp hentry).1
          · rw [hw', sourceAddressMap_modify, hsources]
          · rintro entry hentry rfl
            rw [hw', sourceAddressMap_modify, hsources] at hentry
            rw [hto]
            exact ⟨(htables.source entry hentry).1, rfl⟩
          · intro u hu
            rw [hw', boundServerTransports_modify, hbound] at hu
            split
            · next hut =>
                rw [hto, ← hut]
                exact htables.bound u hu
            · exact hu
          · intro _ id hid
            rw [hto] at hid
            exact .inl (.inl (hid.resolve_right (List.not_mem_nil)))
        · constructor
          · intro entry hentry hne
            rw [hmem]
            refine ⟨hentry, fun hretiring => ?_⟩
            obtain ⟨hr, howns⟩ := htables.owned entry hentry
            exact htables.disjoint entry.2 t entry.1 hne hr hnotify.2.1 howns (.inr hretiring)
          · intro entry hentry _
            rw [hw', sourceAddressMap_modify, hsources]
            exact hentry
  · next hnotify =>
      rw [if_neg hnotify]
      exact .refl t w

/-! ### New IDs -/

/-- The ID that is taken next is fresh. -/
def TakesFresh (t : Nat) (encoded : List ι) (w : WorkerWorld α ι) : Prop :=
  ∀ connId encoded' w', w.createAndAddNewSelfConnId t encoded = some (connId, encoded', w') →
    w.FreshFor t connId

/-- So are those of `issueConnectionIds`. -/
def IssuesFresh (t : Nat) : Nat → List ι → WorkerWorld α ι → Prop
  | 0, _, _ => True
  | n + 1, encoded, w => w.TakesFresh t encoded ∧
      ∀ connId encoded' w', w.createAndAddNewSelfConnId t encoded = some (connId, encoded', w') →
        IssuesFresh t n encoded' (w'.onConnectionIdAvailable t connId)

omit [DecidableEq α] [DecidableEq ι] in
/-- A bound transport whose IDs stay, and that gets none that another has. -/
theorem keepsEntries_of_bound {f : ServerTransport α ι → ServerTransport α ι}
    (hbinds : Binds t w (w.modify t f))
    (hr : (w.transport t).routingCb = true) (hr' : (f (w.transport t)).routingCb = true)
    (hsource : (f (w.transport t)).source = (w.transport t).source)
    (hroutable : w.Routable t → (w.modify t f).Routable t)
    (hkept : ∀ id, (w.transport t).Owns id → (f (w.transport t)).Owns id)
    (hnew : ∀ id, (f (w.transport t)).Owns id → (w.transport t).Owns id ∨ w.FreshFor t id) :
    KeepsEntries t w (w.modify t f) := by
  constructor
  · exact hbinds
  · intro hown u hu
    rw [transport_modify, hsource] at hu
    exact hown u hu
  · exact hroutable
  · exact fun _ => .inl rfl
  · intro _ htables _
    constructor
    · apply htables.step hbinds.frame hbinds.created
      · exact fun _ => hr
      · rintro entry hentry rfl
        rw [transport_modify]
        exact ⟨hr', hkept _ (htables.owned entry hentry).2⟩
      · exact fun entry hentry _ => hentry
      · exact List.Sublist.refl _
      · intro entry _ _
        rw [transport_modify]
        exact ⟨hr', hsource⟩
      · intro u hu
        split
        · rw [transport_modify]
          exact hr'
        · exact hu
      · intro _ id hid
        rw [transport_modify] at hid
        exact hnew id hid
    · exact ⟨fun entry hentry _ => hentry, fun entry hentry _ => hentry⟩

omit [DecidableEq α] in
theorem keepsEntries_create {encoded encoded' : List ι} {connId : ι} {w' : WorkerWorld α ι}
    (hr : (w.transport t).routingCb = true) (hfresh : w.TakesFresh t encoded)
    (hcreate : w.createAndAddNewSelfConnId t encoded = some (connId, encoded', w')) :
    KeepsEntries t w w' ∧ (w'.transport t).Owns connId ∧
      (w'.transport t).routingCb = true := by
  have hnew := hfresh connId encoded' w' hcreate
  obtain ⟨r, -, heq⟩ := Option.map_eq_some_iff.mp hcreate
  cases heq
  refine ⟨?_, ?_, ?_⟩
  · apply keepsEntries_of_bound
    · apply Binds.of_same
      · exact fun u hu => transport_modify_of_ne w t _ hu
      · rfl
      all_goals rw [transport_modify]
      · exact id
      · intro hunbound
        rw [hr] at hunbound
        cases hunbound
    · exact hr
    · exact hr
    · rfl
    · intro hroutable
      unfold Routable
      rw [transport_modify]
      intro hopen id hid hnot
      rcases hroutable hopen id hid hnot with hself | hretiring
      · left
        rw [List.map_append]
        exact List.mem_append_left _ hself
      · exact .inr hretiring
    · intro id hid
      rcases hid with hself | hretiring
      · left
        rw [List.map_append]
        exact List.mem_append_left _ hself
      · exact .inr hretiring
    · intro id hid
      rcases hid with hself | hretiring
      · rw [List.map_append, List.mem_append] at hself
        rcases hself with hold | hadded
        · exact .inl (.inl hold)
        · right
          rw [List.map_singleton, List.mem_singleton] at hadded
          rw [hadded]
          exact hnew
      · exact .inl (.inr hretiring)
  · rw [transport_modify]
    left
    simp
  · rw [transport_modify]
    exact hr

omit [DecidableEq α] in
theorem issueConnectionIds_keepsEntries (n : Nat) (encoded : List ι) (w : WorkerWorld α ι)
    (hfresh : IssuesFresh t n encoded w) :
    Ends (fun _ => True) (w.issueConnectionIds t n encoded) (KeepsEntries t w) := by
  induction n generalizing encoded w with
  | zero => exact .ok (.refl t w)
  | succ n ih =>
    unfold issueConnectionIds
    split
    · exact .ok (.refl t w)
    · next connId encoded' w₁ hcreate =>
        split
        · exact .error trivial
        · next hbound =>
            rw [Bool.not_eq_false] at hbound
            have hr : (w.transport t).routingCb = true := by
              obtain ⟨r, -, heq⟩ := Option.map_eq_some_iff.mp hcreate
              cases heq
              rwa [transport_modify] at hbound
            obtain ⟨hkeeps, howns, -⟩ := keepsEntries_create hr hfresh.1 hcreate
            have havailable := keepsEntries_onConnectionIdAvailable hkeeps hbound howns
            exact (ih encoded' _ (hfresh.2 connId encoded' w₁ hcreate)).imp
              fun w' hw' => havailable.trans hw'

/-! ### Reading frames -/

omit [DecidableEq α] [DecidableEq ι] in
theorem mem_iff_of_find? {β : Type} {p : β → Bool} {l : List β} {found : β}
    (h : l.find? p = some found) (x : β) : x ∈ l ↔ x = found ∨ x ∈ l.eraseP p := by
  induction l with
  | nil => cases h
  | cons a l ih =>
    cases hp : p a with
    | true =>
      rw [List.find?_cons_of_pos hp] at h
      cases h
      rw [List.eraseP_cons_of_pos hp, List.mem_cons]
    | false =>
      have hneg : ¬ p a = true := by simp [hp]
      rw [List.find?_cons_of_neg hneg] at h
      rw [List.eraseP_cons_of_neg hneg, List.mem_cons, List.mem_cons, ih h]
      tauto

/-- The fields that go with the ID of the server, and the IDs owned, are as they were. -/
structure SameOwner (transport transport' : ServerTransport α ι) : Prop where
  source : transport'.source = transport.source
  closeState : transport'.closeState = transport.closeState
  routingCb : transport'.routingCb = transport.routingCb
  serverConnectionId : transport'.serverConnectionId = transport.serverConnectionId
  notifiedRouting : transport'.notifiedRouting = transport.notifiedRouting
  owns : ∀ id, transport'.Owns id ↔ transport.Owns id

omit [DecidableEq α] [DecidableEq ι] in
theorem sameOwner_retireConnectionId (number : Nat) (transport : ServerTransport α ι) :
    SameOwner transport (transport.retireConnectionId number) := by
  unfold ServerTransport.retireConnectionId
  split
  · exact ⟨rfl, rfl, rfl, rfl, rfl, fun _ => Iff.rfl⟩
  · next data hfind =>
      refine ⟨rfl, rfl, rfl, rfl, rfl, fun id => ?_⟩
      unfold ServerTransport.Owns
      simp only [List.mem_map, List.mem_append, List.mem_singleton, mem_iff_of_find? hfind]
      constructor
      · rintro (⟨data', hdata', rfl⟩ | hretiring | rfl)
        · exact .inl ⟨data', .inr hdata', rfl⟩
        · exact .inr hretiring
        · exact .inl ⟨data, .inl rfl, rfl⟩
      · rintro (⟨data', rfl | hdata', rfl⟩ | hretiring)
        · exact .inr (.inr rfl)
        · exact .inl ⟨data', hdata', rfl⟩
        · exact .inr (.inl hretiring)

omit [DecidableEq α] [DecidableEq ι] in
theorem sameOwner_readFrames (input : ReadInput ι) (transport : ServerTransport α ι) :
    SameOwner transport (transport.readFrames input) := by
  have hretired : ∀ (numbers : List Nat) (transport : ServerTransport α ι),
      SameOwner transport (numbers.foldl ServerTransport.retireConnectionId transport) := by
    intro numbers
    induction numbers with
    | nil => exact fun _ => ⟨rfl, rfl, rfl, rfl, rfl, fun _ => Iff.rfl⟩
    | cons number numbers ih =>
      intro transport
      have hfirst := sameOwner_retireConnectionId number transport
      have hrest := ih (transport.retireConnectionId number)
      exact ⟨hrest.source.trans hfirst.source, hrest.closeState.trans hfirst.closeState,
        hrest.routingCb.trans hfirst.routingCb,
        hrest.serverConnectionId.trans hfirst.serverConnectionId,
        hrest.notifiedRouting.trans hfirst.notifiedRouting,
        fun id => (hrest.owns id).trans (hfirst.owns id)⟩
  have h := hretired input.retired transport
  exact ⟨h.source, h.closeState, h.routingCb, h.serverConnectionId, h.notifiedRouting, h.owns⟩

omit [DecidableEq α] in
theorem startConnection_keepsEntries (input : ReadInput ι) (hr : (w.transport t).routingCb = true)
    (hfresh : input.startsConnection = true → (w.transport t).serverConnectionId = none →
      w.TakesFresh t input.encoded) :
    Ends (fun _ => True) (w.startConnection t input) fun started =>
      KeepsEntries t w started.2 ∧ (started.2.transport t).routingCb = true := by
  unfold startConnection chooseServerConnectionId
  split
  · next hstarts =>
      split
      · exact .error trivial
      · next connId encoded' w₁ hcreate =>
          obtain ⟨hkeeps, howns, hr₁⟩ :=
            keepsEntries_create hr (hfresh hstarts.1 hstarts.2) hcreate
          apply Ends.ok
          constructor
          · apply hkeeps.trans
            dsimp only
            apply keepsEntries_of_bound
            · exact .modify rfl rfl rfl rfl rfl
            · exact hr₁
            · exact hr₁
            · rfl
            · intro _
              unfold Routable
              rw [transport_modify]
              rintro - id hid -
              cases hid
              exact howns
            · exact fun _ hid => hid
            · exact fun _ hid => .inl hid
          · dsimp only
            rw [transport_modify]
            exact hr₁
  · exact .ok ⟨.refl t w, hr⟩

omit [DecidableEq α] in
theorem onServerReadData_keepsEntries (input : ReadInput ι) (hb : w.IsBound t)
    (hfresh : (w.transport t).closeState ≠ .closed → input.startsConnection = true →
      (w.transport t).serverConnectionId = none → w.TakesFresh t input.encoded) :
    Ends (fun _ => True) (w.onServerReadData t input) fun read => KeepsEntries t w read.2 := by
  unfold onServerReadData
  split
  · exact .ok (.refl t w)
  · next hopen =>
      refine (startConnection_keepsEntries input (hb.bound hopen).1 (hfresh hopen)).bind
        fun started hstarted => ?_
      obtain ⟨hkeeps, hr⟩ := hstarted
      split
      · exact .ok hkeeps
      · apply Ends.ok
        apply hkeeps.trans
        dsimp only
        have hsame := sameOwner_readFrames input (started.2.transport t)
        have hbinding := sameBinding_readFrames input (started.2.transport t)
        apply keepsEntries_of_bound
        · apply Binds.of_same
          · exact fun u hu => transport_modify_of_ne _ t _ hu
          · rfl
          all_goals rw [transport_modify]
          · exact hbinding.closeState
          · exact hbinding.routingCb
          · exact hbinding.drainTimeout
          · rw [hbinding.connSetupCallback]
            exact id
          · intro hunbound
            rw [hr] at hunbound
            cases hunbound
        · exact hr
        · rw [hsame.routingCb, hr]
        · exact hsame.source
        · intro hroutable
          unfold Routable
          rw [transport_modify, hsame.closeState, hsame.serverConnectionId, hsame.notifiedRouting]
          exact fun hopen id hid hnot => (hsame.owns id).mpr (hroutable hopen id hid hnot)
        · exact fun id => (hsame.owns id).mpr
        · exact fun id hid => .inl ((hsame.owns id).mp hid)

end WorkerWorld

end MasqueQuic
