import Hwsd.Lib.Settled
import Hwsd.Codec.Gpu
import Hwsd.Functions

/-!
# Hwsd.Cluster

Discovery of a whole cluster: every host deduplicates what its native modules have found and
publishes it, and another machine browses all the records.

* `discoverHost_host`: what is decoded for one host are its own GPUs, renamed.
* `distinct_discover`: two of the decoded GPUs are never equal, although the node name is cleared
  for some. GPUs of one host differ in more than their names; of two different hosts at most one is
  found by the local browse.
* `discoverGPUInfos_cluster`: so the duplicate filter of the receiver keeps them all.
-/

namespace Hwsd
namespace Gpu

open CxxStream Greedy KvStore DnsSd

/-- A host with the GPUs that its native modules have found. -/
structure Host where
  name : Text
  nodeID : UInt128
  session : Text
  gpus : List GPUInfo
  name_ne_nil : name ≠ []
  session_ne_nil : session ≠ []
  noSpace_session : NoSpace session
  length_gpus : gpus.length < UInt32.size
  local_gpus : ∀ info ∈ gpus, info.nodeName = [] ∧ info.session = getLocalSession
  typeNamed : ∀ info ∈ gpus, TypeNamed info
  pvp_gpus : ∀ info ∈ gpus, info.pvp = ⟨0, 0, -1, -1⟩ ∨ 0 < info.pvp.w ∧ 0 < info.pvp.h
  distinct : Distinct gpus

/-- What the host publishes on a fresh service. -/
def Host.record (U : Uint128Ops) (h : Host) : Record :=
  (announceInfos U h.nodeID h.session (run (dedup mergeFlags) [] h.gpus) fresh).service

/-- It is the record that its dns_sd module announces, wherever that is registered. -/
theorem Host.service_announce {ι : Type} (M : Matchers) (U : Uint128Ops) (h : Host)
    (w : World ι GPUInfo) (stack : List (Registered ι))
    (hw : Resource.localInfos w stack = h.gpus) :
    ((gpuResource M U h.nodeID).announce w stack h.session ⟨fresh, false⟩ .dnsSd).impl.service =
      h.record U := by
  rw [Resource.announce_dnsSd, Resource.announcedInfos, hw]
  rfl

/-- What another machine decodes for the host. -/
def Host.delivered (U : Uint128Ops) (localNodeID : UInt128) (h : Host) : List GPUInfo :=
  h.gpus.map fun info =>
    { info with
      id := receivedID U h.nodeID localNodeID h.name, nodeName := h.name, session := h.session }

/-- A GPU after the marking of `discover`. -/
def mark (localInfos : List GPUInfo) (info : GPUInfo) : GPUInfo :=
  if localInfos.any (· == info) then { info with nodeName := [] } else info

section

variable {U : Uint128Ops} {localNodeID : UInt128} {all loc : Snapshot}

theorem discoverHost_host {h : Host} (hall : all.lookup h.name = some (h.record U)) :
    discoverHost U localNodeID all h.name = h.delivered U localNodeID := by
  have hlen := h.length_gpus
  rw [Host.record, run_dedup_eq_self h.distinct] at hall
  rw [discoverHost_announced hall, List.take_of_length_le (by omega),
    extractText_eq_self h.session_ne_nil h.noSpace_session, Host.delivered]
  refine List.map_congr_left fun info hinfo => ?_
  have hpvp : (if info.pvp.HasArea then info.pvp else invalidPVP) = info.pvp := by
    rcases h.pvp_gpus info hinfo with hp | hp
    · rw [hp]
      rfl
    · exact if_pos hp
  rw [received, received_type (h.typeNamed info hinfo), hpvp]

theorem nodeName_discoverHost {sn : Snapshot} {host : Text} {info : GPUInfo}
    (h : info ∈ discoverHost U localNodeID sn host) :
    info.nodeName = extractText (get sn host NODENAME) host := by
  rw [discoverHost, List.mem_filterMap] at h
  obtain ⟨k, _, hk⟩ := h
  rw [discoverInfo_eq] at hk
  split at hk
  · cases hk
  · cases hk
    rw [discoverNode_eq]

/-- A browse that finds one host gives all GPUs the same node name. -/
theorem nodeName_discoverHosts (hloc : loc.keys.length ≤ 1) {a b : GPUInfo}
    (ha : a ∈ discoverHosts U localNodeID loc) (hb : b ∈ discoverHosts U localNodeID loc) :
    a.nodeName = b.nodeName := by
  obtain ⟨host, hhost, ha⟩ := List.mem_flatMap.mp ha
  obtain ⟨host', hhost', hb⟩ := List.mem_flatMap.mp hb
  have heq : host = host' := by
    match hk : loc.keys, hloc with
    | [], _ => rw [hk] at hhost; cases hhost
    | [n], _ =>
      rw [hk, List.mem_singleton] at hhost hhost'
      rw [hhost, hhost']
  subst heq
  rw [nodeName_discoverHost ha, nodeName_discoverHost hb]

/-- Marking leaves everything but the node name. -/
theorem fields_mark (localInfos : List GPUInfo) (info : GPUInfo) :
    (mark localInfos info).type = info.type ∧ (mark localInfos info).port = info.port ∧
      (mark localInfos info).device = info.device ∧ (mark localInfos info).pvp = info.pvp ∧
      (mark localInfos info).flags = info.flags := by
  unfold mark
  split <;> exact ⟨rfl, rfl, rfl, rfl, rfl⟩

/-- GPUs of one host stay different whichever of them are marked as local. -/
theorem distinct_delivered (h : Host) (localInfos : List GPUInfo) :
    Distinct ((h.delivered U localNodeID).map (mark localInfos)) := by
  rw [Distinct, Host.delivered, List.map_map, List.pairwise_map]
  refine h.distinct.imp_of_mem fun {a b} ha hb hab => ?_
  by_contra heq
  rw [Bool.not_eq_false, GPUInfo.beq_iff] at heq
  simp only [Function.comp, fields_mark] at heq
  obtain ⟨_, _, hresource⟩ := heq
  have hab' : (a == b) = true := by
    rw [GPUInfo.beq_iff]
    exact ⟨(h.local_gpus a ha).1.trans (h.local_gpus b hb).1.symm,
      (h.local_gpus a ha).2.trans (h.local_gpus b hb).2.symm, hresource⟩
  rw [hab] at hab'
  cases hab'

/-- GPUs of two hosts stay different: only one of the hosts is found by the local browse. -/
theorem distinct_of_two_hosts (hloc : loc.keys.length ≤ 1) {h h' : Host} (hname : h.name ≠ h'.name) :
    ∀ a ∈ (h.delivered U localNodeID).map (mark (discoverHosts U localNodeID loc)),
      ∀ b ∈ (h'.delivered U localNodeID).map (mark (discoverHosts U localNodeID loc)),
        (a == b) = false := by
  intro a ha b hb
  obtain ⟨x, hx, rfl⟩ := List.mem_map.mp ha
  obtain ⟨y, hy, rfl⟩ := List.mem_map.mp hb
  have hxname : x.nodeName = h.name := by
    obtain ⟨_, _, rfl⟩ := List.mem_map.mp hx
    rfl
  have hyname : y.nodeName = h'.name := by
    obtain ⟨_, _, rfl⟩ := List.mem_map.mp hy
    rfl
  by_contra heq
  rw [Bool.not_eq_false, GPUInfo.beq_iff] at heq
  have hnames := heq.1
  simp only [mark] at hnames
  split at hnames
  · rename_i hxloc
    split at hnames
    · -- both are marked: the local browse gives them one name
      rename_i hyloc
      obtain ⟨u, hu, hux⟩ := List.any_eq_true.mp hxloc
      obtain ⟨v, hv, hvy⟩ := List.any_eq_true.mp hyloc
      apply hname
      rw [← hxname, ← hyname, ← (GPUInfo.beq_iff.mp hux).1, ← (GPUInfo.beq_iff.mp hvy).1]
      exact nodeName_discoverHosts hloc hu hv
    · exact h'.name_ne_nil (hyname.symm.trans hnames.symm)
  · split at hnames
    · exact h.name_ne_nil (hxname.symm.trans hnames)
    · exact hname (hxname.symm.trans (hnames.trans hyname))

variable {hosts : List Host} (hall : all.entries = hosts.map fun h => ⟨h.name, h.record U⟩)

include hall

theorem keys_cluster : all.keys = hosts.map Host.name := by
  rw [AList.keys, hall, List.keys, List.map_map]
  rfl

theorem discover_cluster : discover U localNodeID all loc = hosts.flatMap fun h =>
    (h.delivered U localNodeID).map (mark (discoverHosts U localNodeID loc)) := by
  rw [discover_eq_flatMap, keys_cluster hall, List.flatMap_map]
  refine List.flatMap_congr fun h hh => ?_
  have hlookup : all.lookup h.name = some (h.record U) := by
    rw [← Option.mem_def, AList.mem_lookup_iff, hall]
    exact List.mem_map_of_mem hh
  rw [discoveredHost, discoverHost_host hlookup]
  rfl

theorem distinct_discover (hloc : loc.keys.length ≤ 1) :
    Distinct (discover U localNodeID all loc) := by
  have hnames : hosts.Pairwise fun h h' => h.name ≠ h'.name := by
    have := AList.keys_nodup all
    rw [keys_cluster hall] at this
    exact List.pairwise_map.mp this
  rw [discover_cluster hall, Distinct, List.pairwise_flatMap]
  exact ⟨fun h _ => distinct_delivered h _, hnames.imp fun h => distinct_of_two_hosts hloc h⟩

end

/-- Default discovery in a cluster returns the GPUs of all hosts, host after host, each once and
with its type, port, device, viewport and flags. -/
theorem discoverGPUInfos_cluster {ι : Type} (M : Matchers) (U : Uint128Ops) (localNodeID : UInt128)
    (w : World ι GPUInfo) (st : Impl) (hosts : List Host) (hst : st.announcing = false)
    (hall : w.all.entries = hosts.map fun h => ⟨h.name, h.record U⟩)
    (hloc : w.loc.keys.length ≤ 1) :
    let resource (info : GPUInfo) := (info.type, info.port, info.device, info.pvp, info.flags)
    (discoverGPUInfos M U localNodeID w [.dnsSd] st (some Filter.duplicate)).map resource =
      hosts.flatMap fun h => h.gpus.map resource := by
  intro resource
  have hrun : discoverGPUInfos M U localNodeID w [.dnsSd] st (some Filter.duplicate) =
      discover U localNodeID w.all w.loc := by
    rw [discoverGPUInfos, Resource.discoverInfos_eq, Resource.discover_idle _ _ hst, selector,
      Filter.call_duplicate, List.flatMap_singleton]
    exact run_dedup_eq_self (distinct_discover hall hloc)
  rw [hrun, discover_cluster hall, List.map_flatMap]
  refine List.flatMap_congr fun h _ => ?_
  rw [Host.delivered, List.map_map, List.map_map]
  refine List.map_congr_left fun info _ => ?_
  simp only [Function.comp, resource, fields_mark]

/-- A host with two GLX GPUs. -/
def glxHost (name : Text) (hname : name ≠ []) : Host where
  name := name
  nodeID := 7
  session := lit "default"
  gpus := [{ GPUInfo.ofName 7 (lit "GLX") with flags := 1 },
    { GPUInfo.ofName 7 (lit "GLX") with device := 1, pvp := ⟨0, 0, 1920, 1080⟩ }]
  name_ne_nil := hname
  session_ne_nil := by decide
  noSpace_session := by decide
  length_gpus := by decide
  local_gpus := by decide
  typeNamed := by
    intro info hinfo
    simp only [List.mem_cons, List.not_mem_nil, or_false] at hinfo
    rcases hinfo with rfl | rfl <;> exact ⟨lit "GLX", by decide, rfl⟩
  pvp_gpus := by decide
  distinct := by
    unfold Distinct
    decide

theorem discoverGPUInfos_cluster_two_hosts :
    let hosts := [glxHost (lit "node1") (by decide), glxHost (lit "node2") (by decide)]
    let all : Snapshot := ⟨hosts.map fun h => ⟨h.name, h.record hexUint128⟩, by
      unfold List.NodupKeys
      decide⟩
    let loc : Snapshot := (∅ : Snapshot).insert (lit "node1")
      ((glxHost (lit "node1") (by decide)).record hexUint128)
    let w : World Empty GPUInfo := ⟨fun _ => [], all, loc, true⟩
    let resource (info : GPUInfo) := (info.type, info.port, info.device, info.pvp, info.flags)
    (discoverGPUInfos ⟨none, none⟩ hexUint128 9 w [.dnsSd] ⟨fresh, false⟩
        (some Filter.duplicate)).map resource =
      hosts.flatMap fun h => h.gpus.map resource :=
  discoverGPUInfos_cluster ⟨none, none⟩ hexUint128 9 _ ⟨fresh, false⟩ _ rfl rfl (by decide)

end Gpu
end Hwsd
