import Hwsd.DnsSd.Gpu
import Hwsd.DnsSd.Net

/-!
# Hwsd.Localhost

The marking of localhost records: `discover` browses twice, and clears the node name of every record
that the browse of the local interface finds too.

* `marked_markLocal`: what the marking loop does to each record, for any kind of record.
* `discover_marked`: both dns_sd modules, for any two browses; a host whose record is the same in
  both is marked as a whole.
-/

namespace Hwsd

open CxxStream DnsSd

/-- `result` is `decoded` with the node names cleared of the records that have an equal in `loc`. -/
structure Marked {α : Type} [BEq α] (nodeName : α → Text) (setNodeName : α → Text → α)
    (decoded loc result : List α) : Prop where
  length_eq : result.length = decoded.length
  frame : ∀ (i : Nat) (a b : α), decoded[i]? = some a → result[i]? = some b →
    b = setNodeName a (nodeName b)
  cleared : ∀ (i : Nat) (a b : α), decoded[i]? = some a → result[i]? = some b →
    (∃ l ∈ loc, (l == a) = true) → nodeName b = []
  kept : ∀ (i : Nat) (a b : α), decoded[i]? = some a → result[i]? = some b →
    (¬ ∃ l ∈ loc, (l == a) = true) → nodeName b = nodeName a
  untouched : ∀ n, (∀ l ∈ loc, nodeName l ≠ n) →
    ∀ (i : Nat) (a : α), decoded[i]? = some a → nodeName a = n → result[i]? = some a

section Mark

variable {α : Type} [BEq α] {nodeName : α → Text} {setNodeName : α → Text → α}

theorem markLocal_getElem? (clear : α → α) (infos loc : List α) (i : Nat) :
    (markLocal clear infos loc)[i]? =
      infos[i]?.map fun a => if loc.any (· == a) then clear a else a := by
  rw [markLocal, List.getElem?_map]

theorem marked_markLocal (hset : ∀ a t, nodeName (setNodeName a t) = t)
    (hget : ∀ a, setNodeName a (nodeName a) = a)
    (hbeq : ∀ a b, (a == b) = true → nodeName a = nodeName b) (infos loc : List α) :
    Marked nodeName setNodeName infos loc (markLocal (fun a => setNodeName a []) infos loc) := by
  have hentry : ∀ (i : Nat) (a b : α), infos[i]? = some a →
      (markLocal (fun a => setNodeName a []) infos loc)[i]? = some b →
      b = if loc.any (· == a) then setNodeName a [] else a := by
    intro i a b ha hb
    rw [markLocal_getElem?, ha] at hb
    exact (Option.some.inj hb).symm
  have hany : ∀ a, loc.any (· == a) = true ↔ ∃ l ∈ loc, (l == a) = true :=
    fun a => List.any_eq_true
  refine ⟨by simp [markLocal], ?_, ?_, ?_, ?_⟩
  · intro i a b ha hb
    rw [hentry i a b ha hb]
    split
    · rw [hset]
    · rw [hget]
  · intro i a b ha hb hl
    rw [hentry i a b ha hb, if_pos ((hany a).mpr hl), hset]
  · intro i a b ha hb hl
    rw [hentry i a b ha hb, if_neg (mt (hany a).mp hl)]
  · intro n hn i a ha hname
    have hno : ¬ loc.any (· == a) = true := by
      rw [hany]
      rintro ⟨l, hl, hla⟩
      exact hn l hl ((hbeq l a hla).trans hname)
    rw [markLocal_getElem?, ha, Option.map_some, if_neg hno]

/-- Records that all have an equal in the local browse. -/
theorem nodeName_markLocal [ReflBEq α] (nodeName : α → Text) (setNodeName : α → Text → α)
    (hset : ∀ a t, nodeName (setNodeName a t) = t) {infos loc : List α} (h : infos ⊆ loc) :
    ∀ a ∈ markLocal (fun a => setNodeName a []) infos loc, nodeName a = [] := by
  rw [markLocal, List.forall_mem_map]
  intro a ha
  have hany : loc.any (· == a) = true := List.any_eq_true.mpr ⟨a, h ha, BEq.refl a⟩
  rw [if_pos hany, hset]

end Mark

section Host

variable {all loc : Snapshot} {host : Text} {r : Record}

/-- What is decoded from a record that the other browse found for the same host is decoded there
too. -/
theorem decode_subset {α : Type} {decode : Snapshot → Text → List α}
    (hdecode : get all host = get loc host → decode all host = decode loc host)
    (hall : all.lookup host = some r) (hloc : loc.lookup host = some r) :
    decode all host ⊆ loc.keys.flatMap (decode loc) := by
  intro a ha
  rw [hdecode (get_congr (hall.trans hloc.symm))] at ha
  exact List.mem_flatMap.mpr ⟨host, mem_keys_of_lookup hloc, ha⟩

variable (U : Uint128Ops) (localNodeID : UInt128)

/-- The decoder of a host reads the record of that host only. -/
theorem Gpu.discoverHost_congr (hget : get all host = get loc host) :
    discoverHost U localNodeID all host = discoverHost U localNodeID loc host := by
  have hinfo : discoverInfo U localNodeID all host = discoverInfo U localNodeID loc host := by
    funext k
    simp only [discoverInfo_eq, discoverNode_eq, cell, hget]
  rw [discoverHost, discoverHost, nGPUs_eq, nGPUs_eq, hget, hinfo]

theorem Net.discoverHost_congr (hget : get all host = get loc host) :
    discoverHost U localNodeID all host = discoverHost U localNodeID loc host := by
  have hinfo : discoverInfo U localNodeID all host = discoverInfo U localNodeID loc host := by
    funext k
    simp only [discoverInfo_eq, discoverNode_eq, cell, hget]
  rw [discoverHost, discoverHost, nNets_eq, nNets_eq, hget, hinfo]

end Host

/-- For any two browses the dns_sd modules return the records of the first one, in order, with the
node name cleared of exactly those that have an equal among the records of the second one; when the
record of a host is the same in both, that is all records of the host. -/
theorem discover_marked (U : Uint128Ops) (localNodeID : UInt128) (all loc : Snapshot) :
    (Marked (fun info : GPUInfo => info.nodeName) (fun info t => { info with nodeName := t })
        (Gpu.discoverHosts U localNodeID all) (Gpu.discoverHosts U localNodeID loc)
        (Gpu.discover U localNodeID all loc) ∧
      Gpu.discover U localNodeID all loc =
        all.keys.flatMap (Gpu.discoveredHost U localNodeID all loc) ∧
      ∀ host r, all.lookup host = some r → loc.lookup host = some r →
        ∀ info ∈ Gpu.discoveredHost U localNodeID all loc host, info.nodeName = []) ∧
    Marked (fun info : NetInfo => info.nodeName) (fun info t => { info with nodeName := t })
        (Net.discoverHosts U localNodeID all) (Net.discoverHosts U localNodeID loc)
        (Net.discover U localNodeID all loc) ∧
      Net.discover U localNodeID all loc =
        all.keys.flatMap (Net.discoveredHost U localNodeID all loc) ∧
      ∀ host r, all.lookup host = some r → loc.lookup host = some r →
        ∀ info ∈ Net.discoveredHost U localNodeID all loc host, info.nodeName = [] := by
  refine ⟨⟨?_, Gpu.discover_eq_flatMap U localNodeID all loc, ?_⟩, ?_,
    Net.discover_eq_flatMap U localNodeID all loc, ?_⟩
  · exact marked_markLocal (fun _ _ => rfl) (fun _ => rfl)
      (fun a b hab => (GPUInfo.beq_iff.mp hab).1) _ _
  · intro host r hall hloc
    exact nodeName_markLocal (fun info : GPUInfo => info.nodeName)
      (fun info t => { info with nodeName := t }) (fun _ _ => rfl)
      (decode_subset (Gpu.discoverHost_congr U localNodeID) hall hloc)
  · refine marked_markLocal (fun _ _ => rfl) (fun _ => rfl) (fun a b hab => ?_) _ _
    rw [← NetInfo.beq_iff.mp hab]
  · intro host r hall hloc
    exact nodeName_markLocal (fun info : NetInfo => info.nodeName)
      (fun info t => { info with nodeName := t }) (fun _ _ => rfl)
      (decode_subset (Net.discoverHost_congr U localNodeID) hall hloc)

end Hwsd
