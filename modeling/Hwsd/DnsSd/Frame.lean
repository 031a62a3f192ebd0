import Hwsd.DnsSd.Gpu
import Hwsd.DnsSd.Net

/-!
# Hwsd.DnsSd.Frame

Which keys of a record are read. A record can hold others, those of another version or of anything
else that is announced under the same service; they play no part in what is decoded.

* `Gpu.slots`, `Net.slots`: the keys that are read of a record with `n` entries.
* `discover_frame`: snapshots that agree on them are decoded to the same list.
-/

namespace Hwsd

open CxxStream KvStore DnsSd

namespace DnsSd

/-- Both snapshots hold the same texts in these slots of a host. -/
def SameSlots (resource : Text) (slots : List Slot) (sn sn' : Snapshot) (host : Text) : Prop :=
  ∀ slot ∈ slots, get sn host (slot.text resource) = get sn' host (slot.text resource)

def nodeSlots : List Slot := [.global NODEID, .global NODENAME, .global SESSION]

/-- What is read of a record with `n` entries: the node, the number of entries and their fields. -/
def slotsOf (count : Text) (fields : List Text) (n : Nat) : List Slot :=
  nodeSlots ++ .plain count :: (List.range n).flatMap fun k => fields.map (.indexed k)

variable {resource : Text} {slots : List Slot} {sn sn' : Snapshot} {host : Text}

theorem getValue_congr {τ : Type} (extract : Text → τ → τ) (h : SameSlots resource slots sn sn' host)
    {slot : Slot} (hslot : slot ∈ slots) (value : τ) :
    getValue extract resource sn host slot value = getValue extract resource sn' host slot value := by
  rw [getValue, getValue, h slot hslot]

theorem discoverNode_congr (U : Uint128Ops) (h : SameSlots resource slots sn sn' host)
    (hnode : nodeSlots ⊆ slots) (info : NodeInfo) :
    discoverNode U resource sn host info = discoverNode U resource sn' host info := by
  have hid : Slot.global NODEID ∈ slots := hnode (by simp [nodeSlots])
  have hname : Slot.global NODENAME ∈ slots := hnode (by simp [nodeSlots])
  have hsession : Slot.global SESSION ∈ slots := hnode (by simp [nodeSlots])
  simp only [discoverNode, getValue_congr _ h hid, getValue_congr _ h hname,
    getValue_congr _ h hsession]

theorem nodeSlots_subset (count : Text) (fields : List Text) (n : Nat) :
    nodeSlots ⊆ slotsOf count fields n :=
  fun _ h => List.mem_append_left _ h

theorem count_mem (count : Text) (fields : List Text) (n : Nat) :
    Slot.plain count ∈ slotsOf count fields n := by
  simp [slotsOf]

/-- A key is that of the node, or begins with the name of the resource. -/
theorem mem_slotsOf {count : Text} {fields : List Text} {n : Nat} {slot : Slot}
    (h : slot ∈ slotsOf count fields n) : slot ∈ nodeSlots ∨ resource <+: slot.text resource := by
  rw [slotsOf, List.mem_append, List.mem_cons, List.mem_flatMap] at h
  rcases h with h | rfl | ⟨k, _, h⟩
  · exact .inl h
  · exact .inr ⟨_, (List.append_assoc _ _ _).symm⟩
  · obtain ⟨field, _, rfl⟩ := List.mem_map.mp h
    refine .inr ⟨putNat k ++ lit " " ++ field, ?_⟩
    simp [Slot.text]

theorem indexed_mem {count : Text} {fields : List Text} {n k : Nat} (hk : k < n) {field : Text}
    (hfield : field ∈ fields) : Slot.indexed k field ∈ slotsOf count fields n := by
  refine List.mem_append_right _ (List.mem_cons_of_mem _ (List.mem_flatMap.mpr ⟨k, ?_, ?_⟩))
  · exact List.mem_range.mpr hk
  · exact List.mem_map_of_mem hfield

end DnsSd

namespace Gpu

def slots (n : Nat) : List Slot :=
  slotsOf GPUCOUNT [GPUTYPE, GPUPORT, GPUDEVICE, GPUX, GPUY, GPUWIDTH, GPUHEIGHT, GPUFLAGS] n

variable {sn sn' : Snapshot} {host : Text} (U : Uint128Ops) (localNodeID : UInt128)

theorem discoverInfo_sameSlots {n k : Nat} (h : SameSlots GPU (slots n) sn sn' host) (hk : k < n) :
    discoverInfo U localNodeID sn host k = discoverInfo U localNodeID sn' host k := by
  have hfield : ∀ field ∈ [GPUTYPE, GPUPORT, GPUDEVICE, GPUX, GPUY, GPUWIDTH, GPUHEIGHT, GPUFLAGS],
      Slot.indexed k field ∈ slots n := fun field => indexed_mem hk
  simp only [List.forall_mem_cons, List.not_mem_nil, false_implies, implies_true, and_true] at hfield
  obtain ⟨htype, hport, hdevice, hx, hy, hwidth, hheight, hflags⟩ := hfield
  simp only [discoverInfo, discoverNode_congr U h (nodeSlots_subset _ _ _),
    getValue_congr _ h htype, getValue_congr _ h hport, getValue_congr _ h hdevice,
    getValue_congr _ h hx, getValue_congr _ h hy, getValue_congr _ h hwidth,
    getValue_congr _ h hheight, getValue_congr _ h hflags]

theorem discoverHost_sameSlots (h : SameSlots GPU (slots (nGPUs sn host)) sn sn' host) :
    discoverHost U localNodeID sn host = discoverHost U localNodeID sn' host := by
  have hcount : nGPUs sn' host = nGPUs sn host := by
    rw [nGPUs, nGPUs, getValue_congr _ h (count_mem _ _ _)]
  rw [discoverHost, discoverHost, hcount]
  exact List.filterMap_congr fun k hk => discoverInfo_sameSlots U localNodeID h (List.mem_range.mp hk)

theorem discoverHosts_sameSlots (hkeys : sn.keys = sn'.keys)
    (h : ∀ host ∈ sn.keys, SameSlots GPU (slots (nGPUs sn host)) sn sn' host) :
    discoverHosts U localNodeID sn = discoverHosts U localNodeID sn' := by
  rw [discoverHosts, discoverHosts, ← hkeys]
  exact List.flatMap_congr fun host hhost => discoverHost_sameSlots U localNodeID (h host hhost)

end Gpu

namespace Net

def slots (n : Nat) : List Slot :=
  slotsOf NETCOUNT
    [NETTYPE, NETNAME, NETHOSTNAME, NETHWADDR, NETINETADDR, NETINET6ADDR, NETLINKSPEED, NETUP] n

variable {sn sn' : Snapshot} {host : Text} (U : Uint128Ops) (localNodeID : UInt128)

theorem discoverInfo_sameSlots {n k : Nat} (h : SameSlots NET (slots n) sn sn' host) (hk : k < n) :
    discoverInfo U localNodeID sn host k = discoverInfo U localNodeID sn' host k := by
  have hfield : ∀ field ∈ [NETTYPE, NETNAME, NETHOSTNAME, NETHWADDR, NETINETADDR, NETINET6ADDR,
      NETLINKSPEED, NETUP], Slot.indexed k field ∈ slots n := fun field => indexed_mem hk
  simp only [List.forall_mem_cons, List.not_mem_nil, false_implies, implies_true, and_true] at hfield
  obtain ⟨htype, hname, hhostname, hhw, hinet, hinet6, hspeed, hup⟩ := hfield
  simp only [discoverInfo, discoverNode_congr U h (nodeSlots_subset _ _ _),
    getValue_congr _ h htype, getValue_congr _ h hname, getValue_congr _ h hhostname,
    getValue_congr _ h hhw, getValue_congr _ h hinet, getValue_congr _ h hinet6,
    getValue_congr _ h hspeed, getValue_congr _ h hup]

theorem discoverHost_sameSlots (h : SameSlots NET (slots (nNets sn host)) sn sn' host) :
    discoverHost U localNodeID sn host = discoverHost U localNodeID sn' host := by
  have hcount : nNets sn' host = nNets sn host := by
    rw [nNets, nNets, getValue_congr _ h (count_mem _ _ _)]
  rw [discoverHost, discoverHost, hcount]
  exact List.map_congr_left fun k hk => discoverInfo_sameSlots U localNodeID h (List.mem_range.mp hk)

theorem discoverHosts_sameSlots (hkeys : sn.keys = sn'.keys)
    (h : ∀ host ∈ sn.keys, SameSlots NET (slots (nNets sn host)) sn sn' host) :
    discoverHosts U localNodeID sn = discoverHosts U localNodeID sn' := by
  rw [discoverHosts, discoverHosts, ← hkeys]
  exact List.flatMap_congr fun host hhost => discoverHost_sameSlots U localNodeID (h host hhost)

end Net

/-- A text in the slots of the node is the key itself. -/
theorem text_of_mem_nodeSlots {slot : Slot} (h : slot ∈ nodeSlots) :
    ∃ key ∈ [NODEID, NODENAME, SESSION], slot = .global key := by
  simp only [nodeSlots, List.mem_cons, List.not_mem_nil, or_false] at h
  rcases h with rfl | rfl | rfl
  · exact ⟨NODEID, by simp, rfl⟩
  · exact ⟨NODENAME, by simp, rfl⟩
  · exact ⟨SESSION, by simp, rfl⟩

/-- Snapshots of the same hosts that agree on the keys that are read are decoded to the same list,
whatever else their records hold; and of the keys that are read the two resources share those of the
node only. -/
theorem discover_frame (U : Uint128Ops) (localNodeID : UInt128) (all all' loc loc' : Snapshot) :
    (all.keys = all'.keys → loc.keys = loc'.keys →
      (∀ host ∈ all.keys, SameSlots Gpu.GPU (Gpu.slots (Gpu.nGPUs all host)) all all' host) →
      (∀ host ∈ loc.keys, SameSlots Gpu.GPU (Gpu.slots (Gpu.nGPUs loc host)) loc loc' host) →
      Gpu.discover U localNodeID all loc = Gpu.discover U localNodeID all' loc') ∧
    (all.keys = all'.keys → loc.keys = loc'.keys →
      (∀ host ∈ all.keys, SameSlots Net.NET (Net.slots (Net.nNets all host)) all all' host) →
      (∀ host ∈ loc.keys, SameSlots Net.NET (Net.slots (Net.nNets loc host)) loc loc' host) →
      Net.discover U localNodeID all loc = Net.discover U localNodeID all' loc') ∧
    ∀ n m, ∀ slot ∈ Gpu.slots n, ∀ slot' ∈ Net.slots m,
      slot.text Gpu.GPU = slot'.text Net.NET → slot = slot' ∧ slot ∈ nodeSlots := by
  refine ⟨fun hall hloc hsame hsame' => ?_, fun hall hloc hsame hsame' => ?_, ?_⟩
  · rw [Gpu.discover, Gpu.discover, Gpu.discoverHosts_sameSlots U localNodeID hall hsame,
      Gpu.discoverHosts_sameSlots U localNodeID hloc hsame']
  · rw [Net.discover, Net.discover, Net.discoverHosts_sameSlots U localNodeID hall hsame,
      Net.discoverHosts_sameSlots U localNodeID hloc hsame']
  · intro n m slot hslot slot' hslot' heq
    rcases mem_slotsOf hslot with hnode | hgpu
    · obtain ⟨key, hkey, rfl⟩ := text_of_mem_nodeSlots hnode
      rcases mem_slotsOf hslot' with hnode' | hnet
      · obtain ⟨key', _, rfl⟩ := text_of_mem_nodeSlots hnode'
        exact ⟨congrArg Slot.global heq, hnode⟩
      · rw [← heq] at hnet
        exact absurd hnet (Net.reserved key hkey)
    · rw [heq] at hgpu
      rcases mem_slotsOf hslot' with hnode' | ⟨rest, hrest⟩
      · obtain ⟨key', hkey', rfl⟩ := text_of_mem_nodeSlots hnode'
        exact absurd hgpu (Gpu.reserved key' hkey')
      · -- the names of the resources begin with different letters
        obtain ⟨rest', hrest'⟩ := hgpu
        have hletters : Gpu.GPU ++ rest' = Net.NET ++ rest := hrest'.trans hrest.symm
        simp [Gpu.GPU, Net.NET, lit] at hletters

end Hwsd
