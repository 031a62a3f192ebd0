import Mathlib.Data.List.Perm.Subperm
import Mathlib.Data.List.Forall2
import Hwsd.DnsSd.Gpu
import Hwsd.DnsSd.Net

/-!
# Hwsd.Untrusted

Discovery from records that any machine on the network may have published: counts and entries are
arbitrary text. A decoded list is `Backed` when its records were decoded at pairwise different loop
indices whose entries have a type.

* `Gpu.backed`: the GPU decoder skips an entry without a type, so its result is always backed.
* `discover_backed_iff`: the network decoder does not, so its result is backed exactly if every
  entry that the count promises has a type.
-/

namespace Hwsd

open CxxStream KvStore DnsSd

/-- The records `infos` were decoded at different indices below `count`, each with a type; a host
record of `size` keys has that many entries. -/
def Backed {α : Type} (count size : Nat) (type : Nat → Text) (decodes : Nat → α → Prop)
    (infos : List α) : Prop :=
  (∃ indices : List Nat, indices.Nodup ∧
    List.Forall₂ (fun k info => k < count ∧ type k ≠ [] ∧ decodes k info) indices infos) ∧
  infos.length ≤ size

theorem forall₂_filterMap {α β : Type} (f : α → Option β) (l : List α) :
    List.Forall₂ (fun a b => a ∈ l ∧ f a = some b) (l.filter fun a => (f a).isSome)
      (l.filterMap f) := by
  induction l with
  | nil => exact List.Forall₂.nil
  | cons a l ih =>
    have ih' := ih.imp fun _ _ h => (⟨List.mem_cons_of_mem a h.1, h.2⟩ : _ ∧ _)
    cases ha : f a with
    | none => simpa [ha] using ih'
    | some b => simpa [ha] using ih'

theorem forall₂_left {α β : Type} {R : α → β → Prop} {P : α → Prop} {l : List α} {l' : List β}
    (h : List.Forall₂ R l l') (hR : ∀ a b, R a b → P a) : ∀ a ∈ l, P a := by
  induction h with
  | nil => simp
  | cons hab _ ih => exact List.forall_mem_cons.mpr ⟨hR _ _ hab, ih⟩

/-- Texts under different numbered keys are different entries of the host record. -/
theorem length_le_keys {all : Snapshot} {host resource key : Text} {r : Record}
    (h : all.lookup host = some r) {indices : List Nat} (hnodup : indices.Nodup)
    (htype : ∀ k ∈ indices, get all host ((Slot.indexed k key).text resource) ≠ []) :
    indices.length ≤ r.keys.length := by
  have hinj : Function.Injective fun k => (Slot.indexed k key).text resource := by
    intro i j hij
    cases Slot.text_inj (Slot.apart_indexed resource i key) (Slot.apart_indexed resource j key) hij
    rfl
  have hsub : indices.map (fun k => (Slot.indexed k key).text resource) ⊆ r.keys := by
    intro t ht
    obtain ⟨k, hk, rfl⟩ := List.mem_map.mp ht
    have hne := htype k hk
    rw [get_of_lookup h] at hne
    by_contra hnot
    rw [AList.lookup_eq_none.mpr hnot] at hne
    exact hne rfl
  have hlen := (List.subperm_of_subset (hnodup.map hinj) hsub).length_le
  rwa [List.length_map] at hlen

theorem backed_of_forall₂ {α : Type} {all : Snapshot} {host resource key : Text} {r : Record}
    (h : all.lookup host = some r) {count : Nat} {decodes : Nat → α → Prop} {indices : List Nat}
    {infos : List α} (hnodup : indices.Nodup)
    (hall : List.Forall₂ (fun k info => k < count ∧
      get all host ((Slot.indexed k key).text resource) ≠ [] ∧ decodes k info) indices infos) :
    Backed count r.keys.length (fun k => get all host ((Slot.indexed k key).text resource)) decodes
      infos := by
  refine ⟨⟨indices, hnodup, hall⟩, ?_⟩
  have htype : ∀ k ∈ indices, get all host ((Slot.indexed k key).text resource) ≠ [] :=
    forall₂_left hall fun _ _ hk => hk.2.1
  rw [← hall.length_eq]
  exact length_le_keys h hnodup htype

/-- A list of `count` backed records uses every index below `count`. -/
theorem Backed.type_ne_nil {α : Type} {count size : Nat} {type : Nat → Text}
    {decodes : Nat → α → Prop} {infos : List α} (h : Backed count size type decodes infos)
    (hlen : infos.length = count) : ∀ k < count, type k ≠ [] := by
  obtain ⟨⟨indices, hnodup, hall⟩, _⟩ := h
  have hlt : ∀ k ∈ indices, k < count := forall₂_left hall fun _ _ hk => hk.1
  have htype : ∀ k ∈ indices, type k ≠ [] := forall₂_left hall fun _ _ hk => hk.2.1
  have hsub : indices ⊆ List.range count := fun k hk => List.mem_range.mpr (hlt k hk)
  have hperm : indices.Perm (List.range count) :=
    (List.subperm_of_subset hnodup hsub).perm_of_length_le
      (by rw [List.length_range, hall.length_eq, hlen])
  intro k hk
  exact htype k (hperm.mem_iff.mpr (List.mem_range.mpr hk))

namespace Gpu

/-- `info` was decoded from entry `k`, and its node name possibly cleared. -/
def DecodedFrom (U : Uint128Ops) (localNodeID : UInt128) (all : Snapshot) (host : Text) (k : Nat)
    (info : GPUInfo) : Prop :=
  ∃ info', discoverInfo U localNodeID all host k = some info' ∧
    (info = info' ∨ info = { info' with nodeName := [] })

theorem backed (U : Uint128Ops) (localNodeID : UInt128) (all loc : Snapshot) {host : Text}
    {r : Record} (h : all.lookup host = some r) :
    Backed (nGPUs all host) r.keys.length (fun k => cell all host k GPUTYPE)
      (DecodedFrom U localNodeID all host) (discoveredHost U localNodeID all loc host) := by
  have hnodup : ((List.range (nGPUs all host)).filter fun k =>
      (discoverInfo U localNodeID all host k).isSome).Nodup := List.nodup_range.filter _
  refine backed_of_forall₂ h hnodup ?_
  rw [discoveredHost, markLocal, discoverHost, List.forall₂_map_right_iff]
  refine (forall₂_filterMap (discoverInfo U localNodeID all host) _).imp ?_
  rintro k info ⟨hk, hinfo⟩
  refine ⟨List.mem_range.mp hk, fun hcell => ?_, info, hinfo, ?_⟩
  · rw [discoverInfo_eq, cell, if_pos hcell] at hinfo
    cases hinfo
  · split
    · exact Or.inr rfl
    · exact Or.inl rfl

end Gpu

namespace Net

/-- `info` was decoded from entry `k`, and its node name possibly cleared. -/
def DecodedFrom (U : Uint128Ops) (localNodeID : UInt128) (all : Snapshot) (host : Text) (k : Nat)
    (info : NetInfo) : Prop :=
  let info' := discoverInfo U localNodeID all host k
  info = info' ∨ info = { info' with nodeName := [] }

theorem backed_iff (U : Uint128Ops) (localNodeID : UInt128) (all loc : Snapshot) {host : Text}
    {r : Record} (h : all.lookup host = some r) :
    Backed (nNets all host) r.keys.length (fun k => cell all host k NETTYPE)
        (DecodedFrom U localNodeID all host) (discoveredHost U localNodeID all loc host) ↔
      ∀ k < nNets all host, cell all host k NETTYPE ≠ [] := by
  constructor
  · intro hb
    refine hb.type_ne_nil ?_
    rw [discoveredHost, markLocal, discoverHost, List.length_map, List.length_map,
      List.length_range]
  · intro htype
    refine backed_of_forall₂ h (List.nodup_range (n := nNets all host)) ?_
    rw [discoveredHost, markLocal, discoverHost, List.forall₂_map_right_iff,
      List.forall₂_map_right_iff, List.forall₂_same]
    intro k hk
    rw [List.mem_range] at hk
    refine ⟨hk, htype k hk, ?_⟩
    show (if _ then _ else _) = _ ∨ (if _ then _ else _) = _
    split
    · exact Or.inr rfl
    · exact Or.inl rfl

end Net

/-- Whatever the records of a browse say, every discovered GPU of a host is backed by an entry with
a type. The discovered network interfaces of the hosts are so exactly if no host counts an entry
that has no type. -/
theorem discover_backed_iff (U : Uint128Ops) (localNodeID : UInt128) (all loc : Snapshot) :
    Gpu.discover U localNodeID all loc =
      all.keys.flatMap (Gpu.discoveredHost U localNodeID all loc) ∧
    (∀ host r, all.lookup host = some r →
      Backed (Gpu.nGPUs all host) r.keys.length (fun k => Gpu.cell all host k (lit "Type"))
        (Gpu.DecodedFrom U localNodeID all host)
        (Gpu.discoveredHost U localNodeID all loc host)) ∧
    Net.discover U localNodeID all loc =
      all.keys.flatMap (Net.discoveredHost U localNodeID all loc) ∧
    ((∀ host r, all.lookup host = some r →
      Backed (Net.nNets all host) r.keys.length (fun k => Net.cell all host k (lit "Type"))
        (Net.DecodedFrom U localNodeID all host)
        (Net.discoveredHost U localNodeID all loc host)) ↔
      ∀ host ∈ all.keys, ∀ k < (extractUnsigned (get all host (lit "Net Count")) 0).toNat,
        get all host (lit "Net" ++ putNat k ++ lit " " ++ lit "Type") ≠ []) := by
  refine ⟨Gpu.discover_eq_flatMap U localNodeID all loc,
    fun host r h => Gpu.backed U localNodeID all loc h,
    Net.discover_eq_flatMap U localNodeID all loc, ?_⟩
  have hcount : ∀ host, Net.nNets all host =
      (extractUnsigned (get all host (lit "Net Count")) 0).toNat :=
    fun host => Net.nNets_eq all host
  constructor
  · intro hall host hhost
    obtain ⟨r, hr⟩ := Option.isSome_iff_exists.mp
      (AList.lookup_isSome.mpr (AList.mem_keys.mpr hhost))
    rw [← hcount]
    exact (Net.backed_iff U localNodeID all loc hr).mp (hall host r hr)
  · intro hall host r hr
    refine (Net.backed_iff U localNodeID all loc hr).mpr ?_
    rw [hcount]
    refine hall host (AList.mem_keys.mp (AList.lookup_isSome.mp ?_))
    rw [hr]
    rfl

/-- A record that holds an id, a count and nothing else yields as many interfaces. -/
theorem discover_not_backed :
    let r : Record := ((∅ : Record).insert (lit "NodeID") (lit "7")).insert (lit "Net Count")
      (lit "3")
    let all : Snapshot := (∅ : Snapshot).insert (lit "node1") r
    (Net.discover hexUint128 9 all ∅).length = 3 ∧
      ¬ ∀ host r, all.lookup host = some r →
        Backed (Net.nNets all host) r.keys.length (fun k => Net.cell all host k (lit "Type"))
          (Net.DecodedFrom hexUint128 9 all host)
          (Net.discoveredHost hexUint128 9 all ∅ host) := by
  intro r all
  refine ⟨by decide, fun hall => ?_⟩
  have hb := hall (lit "node1") r (AList.lookup_insert _)
  exact hb.type_ne_nil (by decide) 0 (by decide) (by decide)

end Hwsd
