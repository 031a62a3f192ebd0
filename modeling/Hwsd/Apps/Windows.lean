import Hwsd.Apps.Machines
import Hwsd.Wgl.Listing

/-!
# Hwsd.Apps.Windows

Windows machines, from what the driver and the system say there to what other machines get to know:
`WindowsDaemon.daemon` is the daemon of such a machine, whose modules are those of `Wgl` and of
`Sys.Adapters`.

* `shown_received`, `describes_received`: what arrives of a record that the modules have found.
* `displays_delivered`: another machine gets to know exactly the GPUs and monitors that there are to
  find, a GPU that is known by an id once, however often the driver lists it.
* `adapters_delivered`: and the adapters, of which only loopback adapters can be missing. Their names
  arrive up to the first blank.
-/

namespace Hwsd

open CxxStream Greedy KvStore DnsSd Publish

namespace Wgl

variable {γ : Type} {localNodeID : UInt128} {env : Env γ} {fuel : Nat} {infos : List GPUInfo}

theorem typeNamed_of_mem_discover (h : discover localNodeID env fuel = some infos)
    (hfew : infos.length < UInt32.size) {info : GPUInfo} (hinfo : info ∈ infos) :
    Gpu.TypeNamed info := by
  have hlisted := (mem_discover h hfew).mp hinfo
  cases haffinity : env.affinity with
  | some driver =>
    rw [haffinity] at hlisted
    obtain ⟨_, device, gpuDevice, _, _, rfl⟩ := hlisted
    exact ⟨lit "WGLn", by decide, rfl⟩
  | none =>
    rw [haffinity] at hlisted
    rcases hlisted with ⟨_, ⟨device, rcMonitor, _, rfl⟩ | ⟨_, _, _, i, _, rfl⟩⟩
    · exact ⟨lit "WGL", by decide, rfl⟩
    · exact ⟨lit "WGLa", by decide, rfl⟩

theorem shown_received {info : GPUInfo} (h : Gpu.TypeNamed info) (nodeID : UInt128)
    (host session : Text) : shown (Gpu.received nodeID host session info) =
      (info.type, info.device, info.pvp.arrived) := by
  rw [shown, Gpu.received, Gpu.received_type h]
  rfl

end Wgl

namespace Sys

/-- The names of the adapters and the hosts of their addresses are words. -/
def Adapter.Words (adapter : Adapter) : Prop :=
  NoSpace adapter.FriendlyName ∧
    ∀ addr ∈ adapter.FirstUnicastAddress, ∀ t ∈ addr.numericHost, NoSpace t

/-- What arrives of an adapter: the first word of its name and of each host. -/
def Adapter.arrived (adapter : Adapter) : Adapter :=
  { adapter with
    FriendlyName := extractText adapter.FriendlyName []
    FirstUnicastAddress := adapter.FirstUnicastAddress.map fun addr =>
      { addr with numericHost := addr.numericHost.map fun host => extractText host [] } }

/-- What a record says besides its node. -/
def withNode (nodeID : UInt128) (info : NetInfo) : NetInfo :=
  { info with toNodeInfo := NodeInfo.new nodeID }

theorem withNode_congr {nodeID : UInt128} {a b : NetInfo} (h : (a == b) = true) :
    withNode nodeID a = withNode nodeID b := by
  rw [← NetInfo.beq_iff.mp h]
  rfl

theorem withNode_adapterInfo (nodeID : UInt128) (adapter : Adapter) :
    withNode nodeID (adapterInfo nodeID adapter) = adapterInfo nodeID adapter := by
  rw [withNode, ← (describesAdapter nodeID adapter).node]

/-- What arrives of a record does not depend on its node. -/
theorem withNode_received (nodeID id : UInt128) (host session : Text) (info : NetInfo) :
    withNode nodeID (Net.received id host session (withNode nodeID info)) =
      withNode nodeID (Net.received id host session info) := by
  have htype : ((withNode nodeID info).setType info.getType).type =
      (info.setType info.getType).type := NetInfo.type_setType_eq _ _ _
  have hgetType : (withNode nodeID info).getType = info.getType := rfl
  simp only [Net.received, hgetType, htype]
  rfl

theorem lastHost_arrived (q : UInt16 → Bool) (addresses : List UnicastAddress) :
    lastHost (fun addr => q addr.sa_family) (addresses.map fun addr =>
        { addr with numericHost := addr.numericHost.map fun host => extractText host [] }) =
      extractText (lastHost (fun addr => q addr.sa_family) addresses) [] := by
  have hcomp : (fun addr : UnicastAddress => q addr.sa_family) ∘ (fun addr : UnicastAddress =>
      { addr with numericHost := addr.numericHost.map fun host => extractText host [] }) =
      fun addr => q addr.sa_family := rfl
  rw [lastHost, lastHost, List.filter_map, hcomp, List.getLast?_map]
  cases (addresses.filter fun addr => q addr.sa_family).getLast? with
  | none => rfl
  | some addr =>
    simp only [Option.map_some, Option.bind_some]
    cases addr.numericHost with
    | none => rfl
    | some host => rfl

/-- What arrives of the record of an adapter is the record of what arrives of the adapter. -/
theorem describes_received (nodeID id : UInt128) (host session : Text) (adapter : Adapter) :
    DescribesAdapter nodeID adapter.arrived
      (withNode nodeID (Net.received id host session (adapterInfo nodeID adapter))) := by
  have hdescribes := describesAdapter nodeID adapter
  refine ⟨rfl, ?_, ?_, ?_, hdescribes.up, hdescribes.linkspeed, ?_, ?_, ?_⟩
  · exact congrArg (extractText · []) hdescribes.name
  · exact congrArg (extractText · []) hdescribes.hostname
  · refine Eq.trans ((NetInfo.type_setType_getType _ _).mpr ?_) hdescribes.type
    rw [hdescribes.type]
    split_ifs <;> simp
  · exact (congrArg (extractText · []) hdescribes.inetAddress).trans
      (lastHost_arrived (fun family => family = AF_INET) _).symm
  · exact (congrArg (extractText · []) hdescribes.inet6Address).trans
      (lastHost_arrived (fun family => family ≠ AF_INET) _).symm
  · refine (congrArg (extractText · []) hdescribes.hwAddress).trans ?_
    exact extractText_nil_eq_self.mpr (noSpace_physicalText _)

theorem noSpace_lastHost {adapter : Adapter} (h : adapter.Words) (p : UnicastAddress → Bool) :
    NoSpace (lastHost p adapter.FirstUnicastAddress) := by
  unfold lastHost
  cases hlast : (adapter.FirstUnicastAddress.filter p).getLast?.bind UnicastAddress.numericHost with
  | none => exact fun c hc => absurd hc List.not_mem_nil
  | some t =>
    obtain ⟨addr, haddr, ht⟩ := Option.bind_eq_some_iff.mp hlast
    exact h.2 addr (List.mem_of_mem_filter (List.mem_of_getLast? haddr)) t ht

theorem native_adapter {localNodeID : UInt128} {adapter : Adapter} (h : adapter.Words) :
    Net.Native (adapterInfo localNodeID adapter) := by
  have hdescribes := describesAdapter localNodeID adapter
  refine ⟨by rw [hdescribes.node]; rfl, by rw [hdescribes.node]; rfl, ?_, ?_⟩
  · rw [hdescribes.type]
    split_ifs <;> simp
  · intro t ht
    simp only [NetInfo.texts, List.mem_cons, List.not_mem_nil, or_false] at ht
    rcases ht with rfl | rfl | rfl | rfl | rfl
    · rw [hdescribes.name]
      exact h.1
    · rw [hdescribes.hostname]
      exact fun c hc => absurd hc List.not_mem_nil
    · rw [hdescribes.hwAddress]
      exact noSpace_physicalText _
    · rw [hdescribes.inetAddress]
      exact noSpace_lastHost h _
    · rw [hdescribes.inet6Address]
      exact noSpace_lastHost h _

end Sys

/-- A Windows machine whose discovery returns, and the `hw_sd` that is started there. -/
structure WindowsDaemon (γ : Type) where
  nodeID : UInt128
  env : Wgl.Env γ
  infos : List GPUInfo
  fuel : Nat
  /-- So the driver knows no more GPUs by an id than its answer has room for. -/
  returns : Wgl.discover nodeID env fuel = some infos
  answers : Sys.AdapterAnswers
  executable : Text
  options : Option DaemonOptions
  /-- Whether Servus announces. -/
  announced : Kind → Bool

namespace WindowsDaemon

variable {γ : Type} (l : WindowsDaemon γ)

def machine : Machine where
  nodeID := l.nodeID
  gpus :=
    { infos := fun
        | .wgl => l.infos
        | _ => []
      all := ∅, loc := ∅, announced := l.announced .gpu }
  nets :=
    { infos := fun
        | .sys => (Sys.discoverAdapters l.nodeID l.answers).1
      all := ∅, loc := ∅, announced := l.announced .net }

def daemon : Daemon := ⟨⟨false, false, true⟩, l.machine, l.executable, l.options⟩

theorem foundGPUs_eq : l.daemon.foundGPUs = l.infos := by
  simp [Daemon.foundGPUs, daemon, Build.modules, machine]

theorem foundNets_eq : l.daemon.foundNets = l.answers.listed.map (Sys.adapterInfo l.nodeID) :=
  Sys.discoverAdapters_eq l.answers

variable (M : Matchers) (U : Uint128Ops) (localNodeID : UInt128) (host : Text)

theorem deliveredGPUs_eq (hfew : l.infos.length < UInt32.size) :
    deliveredGPUs M U localNodeID host l.daemon =
      (run (dedup Gpu.mergeFlags) [] l.infos).map
        (Gpu.received (receivedID U l.nodeID localNodeID host) host
          (sessionWord l.daemon.session)) := by
  have hfound : l.daemon.foundGPUs.length < UInt32.size := by rwa [foundGPUs_eq]
  rw [deliveredGPUs, take_gpus M U hfound, gpus_eq, foundGPUs_eq]
  rfl

theorem deliveredNets_eq (hfew : l.answers.listed.length < UInt32.size) :
    deliveredNets M U localNodeID host l.daemon =
      (Net.eraseLoopback (run (dedup fun info _ => info) []
        (l.answers.listed.map (Sys.adapterInfo l.nodeID)))).map
          (Net.received (receivedID U l.nodeID localNodeID host) host
            (sessionWord l.daemon.session)) := by
  have hfound : l.daemon.foundNets.length < UInt32.size := by rwa [foundNets_eq, List.length_map]
  rw [deliveredNets, take_nets M U hfound, nets_eq, foundNets_eq]
  rfl

end WindowsDaemon

/-! ## A machine -/

/-- A machine with two monitors, an adapter with a name of three words, and a driver that lists a GPU
twice. -/
def oneWindows : WindowsDaemon Unit where
  nodeID := 8
  env :=
    { initGLFuncs := true, affinity := none
      monitors := [some ⟨0, 0, 1920, 1080⟩, none, some ⟨1920, 0, 3840, 1080⟩]
      wglGetGPUIDsAMD := some (3, fun i => if i.val = 1 then 6 else 5) }
  infos := [Wgl.monitorInfo 8 0 ⟨0, 0, 1920, 1080⟩, Wgl.monitorInfo 8 1 ⟨1920, 0, 3840, 1080⟩,
    Wgl.idInfo 8 5, Wgl.idInfo 8 6, Wgl.idInfo 8 5]
  fuel := 0
  returns := by decide
  answers := ⟨true, true, some [
    ⟨Sys.IF_TYPE_ETHERNET_CSMACD, Sys.IfOperStatusUp, 1000000000, lit "Local Area Connection",
      [⟨Sys.AF_INET, some (lit "192.168.0.3")⟩], [0, 27, 33, 160, 11, 5]⟩]⟩
  executable := lit "hw_sd"
  options := some ⟨⟨false, false, lit "render"⟩, true⟩
  announced := fun _ => true

theorem oneWindows_main :
    (oneWindows.daemon.main ⟨none, none⟩ hexUint128).1 = .never := by decide

theorem oneWindows_serving (kind : Kind) :
    Serving (upCluster ⟨none, none⟩ hexUint128 (lit "node2") oneWindows.daemon) kind (lit "node2")
      oneWindows.daemon :=
  up_serving _ _ oneWindows_main (by cases kind <;> decide) (by cases kind <;> decide)

/-! ## Results -/

/-- In every network that is reachable, another machine decodes the announcement of a Windows machine
to exactly the GPUs and monitors that there are to find, each type and device once and with its
viewport, if this has an area. -/
theorem displays_delivered (M : Matchers) (U : Uint128Ops) (localNodeID : UInt128) {γ : Type}
    (l : WindowsDaemon γ) (hfew : l.infos.length < UInt32.size) (n : Cluster)
    (h : Reachable (Daemon.program M U) n) (host : Text) (hserving : Serving n .gpu host l.daemon) (sn : Snapshot)
    (hsn : sn.lookup host = visible n .gpu host) :
    let gpus := Gpu.discoverHost U localNodeID sn host
    (gpus.map fun info => (info.type, info.device)).Nodup ∧
    (∀ type device pvp, (type, device, pvp) ∈ gpus.map Wgl.shown ↔
      ∃ found, Wgl.Listed l.env type device found ∧ pvp = found.arrived) ∧
    ∀ info ∈ gpus, info.nodeName = host ∧ info.session = sessionWord l.daemon.session := by
  intro gpus
  have hgpus : gpus = deliveredGPUs M U localNodeID host l.daemon :=
    (gpuDelivery M U localNodeID).decode_serving h hserving hsn
  have hnamed : ∀ info ∈ run (dedup Gpu.mergeFlags) [] l.infos, Gpu.TypeNamed info := by
    refine forall_run_dedup Gpu.mergeFlags_isMerge (fun a b hab hb => ?_) fun info hinfo =>
      Wgl.typeNamed_of_mem_discover l.returns hfew hinfo
    obtain ⟨name, hname, htype⟩ := hb
    exact ⟨name, hname, (GPUInfo.beq_iff.mp hab).2.2.1.trans htype⟩
  have hshown : gpus.map Wgl.shown = (run (dedup Gpu.mergeFlags) [] l.infos).map fun info =>
      (info.type, info.device, info.pvp.arrived) := by
    rw [hgpus, l.deliveredGPUs_eq M U localNodeID host hfew, List.map_map]
    exact List.map_congr_left fun info hinfo => Wgl.shown_received (hnamed info hinfo) _ _ _
  refine ⟨?_, fun type device pvp => ?_, fun info hinfo => ?_⟩
  · have hkeys : gpus.map (fun info => (info.type, info.device)) =
        (run (dedup Gpu.mergeFlags) [] l.infos).map fun info => (info.type, info.device) := by
      have hfst := congrArg (List.map fun x : UInt32 × UInt32 × Pvp => (x.1, x.2.1)) hshown
      rwa [List.map_map, List.map_map] at hfst
    rw [hkeys]
    refine nodup_map_run_dedup Gpu.mergeFlags_isMerge (fun a b hab => ?_) fun a ha b hb heq => ?_
    · obtain ⟨_, _, htype, _, hdevice, _⟩ := GPUInfo.beq_iff.mp hab
      exact Prod.ext htype hdevice
    · obtain ⟨htype, hdevice⟩ := Prod.mk.inj heq
      rw [Wgl.eq_of_mem_discover l.returns hfew ha hb htype hdevice]
      exact BEq.refl b
  · rw [hshown, mem_map_run_dedup Gpu.mergeFlags_isMerge, List.mem_map]
    · simp only [← Wgl.discover_shown l.returns hfew, List.mem_map, Wgl.shown,
        Prod.mk.injEq]
      constructor
      · rintro ⟨info, hinfo, rfl, rfl, rfl⟩
        exact ⟨info.pvp, ⟨info, hinfo, rfl, rfl, rfl⟩, rfl⟩
      · rintro ⟨_, ⟨info, hinfo, rfl, rfl, rfl⟩, rfl⟩
        exact ⟨info, hinfo, rfl, rfl, rfl⟩
    · intro a b hab
      obtain ⟨_, _, htype, _, hdevice, hpvp⟩ := GPUInfo.beq_iff.mp hab
      rw [htype, hdevice, hpvp]
  · rw [hgpus] at hinfo
    obtain ⟨_, _, rfl⟩ := List.mem_map.mp hinfo
    exact ⟨rfl, rfl⟩

theorem displays_delivered_one :
    let sn := upSnapshot ⟨none, none⟩ hexUint128 (lit "node2") oneWindows.daemon .gpu
    let gpus := Gpu.discoverHost hexUint128 9 sn (lit "node2")
    (gpus.map fun info => (info.type, info.device)).Nodup ∧
    (∀ type device pvp, (type, device, pvp) ∈ gpus.map Wgl.shown ↔
      ∃ found, Wgl.Listed oneWindows.env type device found ∧ pvp = found.arrived) ∧
    ∀ info ∈ gpus, info.nodeName = lit "node2" ∧
      info.session = sessionWord oneWindows.daemon.session :=
  displays_delivered ⟨none, none⟩ hexUint128 9 oneWindows (by decide) _ (up_reachable _ _ _ _) _
    (oneWindows_serving .gpu) _ (upSnapshot_lookup _ _ (oneWindows_serving .gpu))

/-- And to its adapters: each record is that of what arrives of an adapter, and only adapters of
loopback type can be missing. None comes twice if their names and hosts are words. -/
theorem adapters_delivered (M : Matchers) (U : Uint128Ops) (localNodeID : UInt128) {γ : Type}
    (l : WindowsDaemon γ) (hfew : l.answers.listed.length < UInt32.size) (n : Cluster)
    (h : Reachable (Daemon.program M U) n) (host : Text) (hserving : Serving n .net host l.daemon) (sn : Snapshot)
    (hsn : sn.lookup host = visible n .net host) :
    let nets := Net.discoverHost U localNodeID sn host
    let Describes := fun (adapter : Sys.Adapter) (info : NetInfo) =>
      Sys.DescribesAdapter l.nodeID adapter.arrived { info with toNodeInfo := NodeInfo.new l.nodeID }
    (∀ info ∈ nets, info.nodeName = host ∧ info.session = sessionWord l.daemon.session ∧
      ∃ adapter ∈ l.answers.listed, Describes adapter info) ∧
    (∀ adapter ∈ l.answers.listed, adapter.IfType ≠ Sys.IF_TYPE_SOFTWARE_LOOPBACK →
      ∃ info ∈ nets, Describes adapter info) ∧
    ((∀ adapter ∈ l.answers.listed, adapter.Words) → nets.Nodup) := by
  intro nets Describes
  have hnets : nets = deliveredNets M U localNodeID host l.daemon :=
    (netDelivery M U localNodeID).decode_serving h hserving hsn
  -- up to its node, a record that is announced is that of an adapter, and the other way round
  have hmem : ∀ body, body ∈ (run (dedup fun info _ => info) []
      (l.answers.listed.map (Sys.adapterInfo l.nodeID))).map (Sys.withNode l.nodeID) ↔
      ∃ adapter ∈ l.answers.listed, Sys.adapterInfo l.nodeID adapter = body := by
    intro body
    rw [mem_map_run_dedup Net.keepFirst_isMerge fun a b => Sys.withNode_congr, List.map_map,
      List.mem_map]
    simp only [Function.comp, Sys.withNode_adapterInfo]
  have hdescribes : ∀ {adapter found}, Sys.adapterInfo l.nodeID adapter =
      Sys.withNode l.nodeID found → Describes adapter (Net.received
        (receivedID U l.nodeID localNodeID host) host (sessionWord l.daemon.session) found) := by
    intro adapter found heq
    have hreceived := Sys.describes_received l.nodeID (receivedID U l.nodeID localNodeID host) host
      (sessionWord l.daemon.session) adapter
    rwa [heq, Sys.withNode_received] at hreceived
  rw [hnets, l.deliveredNets_eq M U localNodeID host hfew]
  refine ⟨fun info hinfo => ?_, fun adapter hadapter htype => ?_, fun hwords => ?_⟩
  · obtain ⟨found, hfound, rfl⟩ := List.mem_map.mp hinfo
    obtain ⟨adapter, hadapter, heq⟩ := (hmem _).mp
      (List.mem_map_of_mem ((sublist_eraseLoopback _).subset hfound))
    exact ⟨rfl, rfl, adapter, hadapter, hdescribes heq⟩
  · obtain ⟨found, hfound, heq⟩ := List.mem_map.mp ((hmem _).mpr ⟨adapter, hadapter, rfl⟩)
    have hother : found.type ≠ .loopback := by
      have hfoundType := congrArg NetInfo.type heq
      rw [(Sys.describesAdapter l.nodeID adapter).type] at hfoundType
      rw [show found.type = _ from hfoundType]
      split_ifs <;> simp
    exact ⟨_, List.mem_map_of_mem (mem_eraseLoopback_of_ne hfound hother), hdescribes heq.symm⟩
  · have hnative : ∀ info ∈ run (dedup fun info _ => info) []
        (l.answers.listed.map (Sys.adapterInfo l.nodeID)), Net.Native info := by
      refine forall_run_dedup Net.keepFirst_isMerge (fun a b hab hb => ?_) ?_
      · obtain ⟨hname, hsession, htype, hspace⟩ := hb
        rw [← NetInfo.beq_iff.mp hab] at hname hsession htype hspace
        exact ⟨hname, hsession, htype, hspace⟩
      · rw [List.forall_mem_map]
        exact fun adapter hadapter => Sys.native_adapter (hwords adapter hadapter)
    have hsub := sublist_eraseLoopback (run (dedup fun info _ => info) []
      (l.answers.listed.map (Sys.adapterInfo l.nodeID)))
    have hdistinct := Net.distinct_received
      ((run_dedup_distinct Net.keepFirst_isMerge _).sublist hsub)
      (fun info hinfo => hnative info (hsub.subset hinfo))
      (receivedID U l.nodeID localNodeID host) host (sessionWord l.daemon.session)
    refine hdistinct.imp fun {a b} hab heq => ?_
    rw [heq, BEq.refl] at hab
    cases hab

theorem adapters_delivered_one :
    let nets := Net.discoverHost hexUint128 9
      (upSnapshot ⟨none, none⟩ hexUint128 (lit "node2") oneWindows.daemon .net) (lit "node2")
    let Describes := fun (adapter : Sys.Adapter) (info : NetInfo) =>
      Sys.DescribesAdapter oneWindows.nodeID adapter.arrived
        { info with toNodeInfo := NodeInfo.new oneWindows.nodeID }
    (∀ info ∈ nets, info.nodeName = lit "node2" ∧
      info.session = sessionWord oneWindows.daemon.session ∧
      ∃ adapter ∈ oneWindows.answers.listed, Describes adapter info) ∧
    (∀ adapter ∈ oneWindows.answers.listed, adapter.IfType ≠ Sys.IF_TYPE_SOFTWARE_LOOPBACK →
      ∃ info ∈ nets, Describes adapter info) ∧
    ((∀ adapter ∈ oneWindows.answers.listed, adapter.Words) → nets.Nodup) :=
  adapters_delivered ⟨none, none⟩ hexUint128 9 oneWindows (by decide) _ (up_reachable _ _ _ _) _
    (oneWindows_serving .net) _ (upSnapshot_lookup _ _ (oneWindows_serving .net))

end Hwsd
