import Hwsd.Apps.Network
import Hwsd.Glx.Screens
import Hwsd.Sys.Adapters

/-!
# Hwsd.Apps.Machines

Linux machines, from what X and the system say there to what other machines get to know:
`LinuxDaemon.daemon` is the daemon of such a machine, whose modules are those of `Glx` and `Sys`, and
`XServers` its X servers.

* `native_glx`, `native_sys`: what the modules find arrives as it is.
* `screens_delivered`: another machine gets to know exactly the screens that are looked for.
* `interfaces_delivered`: and the interfaces, without the first loopback interface.
-/

namespace Hwsd

open CxxStream Greedy KvStore DnsSd Publish Probe

/-! ## Records of the modules -/

/-- A GPU of a native module that arrives as it is. -/
structure Gpu.Native (info : GPUInfo) : Prop where
  nodeName_eq : info.nodeName = []
  session_eq : info.session = getLocalSession
  typeNamed : Gpu.TypeNamed info
  hasArea : info.pvp.HasArea

theorem Gpu.Native.received_eq {info : GPUInfo} (h : Gpu.Native info) (nodeID : UInt128)
    (host session : Text) : Gpu.received nodeID host session info =
      { info with id := nodeID, nodeName := host, session := session } := by
  rw [Gpu.received, Gpu.received_type h.typeNamed, if_pos h.hasArea]

/-- A network interface of the network module that arrives as it is. -/
structure Net.Native (info : NetInfo) : Prop where
  nodeName_eq : info.nodeName = []
  session_eq : info.session = getLocalSession
  type_mem : info.type ∈ [NetType.ethernet, .infiniband, .loopback, .unknown]
  noSpace : ∀ t ∈ info.texts, NoSpace t

theorem Net.Native.received_eq {info : NetInfo} (h : Net.Native info) (nodeID : UInt128)
    (host session : Text) : Net.received nodeID host session info =
      { info with id := nodeID, nodeName := host, session := session } := by
  have htype := h.type_mem
  refine (Net.received_eq_iff ?_ h.noSpace _ _ _).mpr ?_
  · intro heq
    simp [heq] at htype
  · constructor <;> intro heq <;> simp [heq] at htype

/-- Interfaces that differ still do so when they have arrived. -/
theorem Net.distinct_received {nets : List NetInfo} (hd : Distinct nets)
    (hn : ∀ info ∈ nets, Net.Native info) (nodeID : UInt128) (host session : Text) :
    Distinct (nets.map (Net.received nodeID host session)) := by
  refine hd.map fun a ha b hb hab => ?_
  have hna := hn a ha
  have hnb := hn b hb
  rw [hna.received_eq, hnb.received_eq, NetInfo.beq_iff] at hab
  have hname := hna.nodeName_eq.trans hnb.nodeName_eq.symm
  have hsession := hna.session_eq.trans hnb.session_eq.symm
  obtain ⟨⟨_, _, _⟩, _, _, _, _, _, _, _, _⟩ := a
  obtain ⟨⟨_, _, _⟩, _, _, _, _, _, _, _, _⟩ := b
  rw [NetInfo.beq_iff]
  simp_all

/-- A viewport as it arrives: one without area is not announced. -/
def Pvp.arrived (pvp : Pvp) : Pvp := if pvp.HasArea then pvp else invalidPVP

namespace Glx

variable {env : Env} {localNodeID : UInt128} {count : Nat → Nat}
  {size : Nat × Nat → Int32 × Int32} {own : Option LocalName}

/-- Every record is that of the screen at its place. -/
theorem isRecord_of_mem_discover (hs : LocalServers env count size) (hown : env.DisplayIs own)
    {info : GPUInfo} (h : info ∈ discover env localNodeID) :
    IsRecord localNodeID size (place info) info ∧
      (place info).2 < count (place info).1 := by
  have hplace : ∀ {p}, IsRecord localNodeID size p info →
      IsRecord localNodeID size (place info) info := by
    intro p hp
    rw [hp.place_eq]
    exact hp
  rw [discover_eq localNodeID hs, List.mem_append] at h
  rcases h with h | h
  · cases hp : ownPlace count own with
    | none => simp [discoverDefault_none localNodeID hs hown hp] at h
    | some p =>
      obtain ⟨name, info', heq, hrecord, _⟩ := discoverDefault_some localNodeID hs hown hp
      rw [heq, List.map_singleton, List.mem_singleton] at h
      subst h
      refine ⟨hplace hrecord, ?_⟩
      rw [hrecord.place_eq]
      exact of_decide_eq_true (Option.filter_eq_some_iff.mp hp).2
  · obtain ⟨p, hp, rfl⟩ := List.mem_map.mp (List.mem_of_mem_filter h)
    obtain ⟨x, _, hx, hrecord⟩ := openGlx_screen localNodeID hs hp
    rw [← hx] at hrecord
    refine ⟨hplace hrecord, ?_⟩
    rw [hrecord.place_eq]
    exact (mem_cells.mp hp).2

theorem native_glx (hs : LocalServers env count size) (hown : env.DisplayIs own) {info : GPUInfo}
    (h : info ∈ discover env localNodeID) : Gpu.Native info := by
  obtain ⟨hrecord, hlt⟩ := isRecord_of_mem_discover hs hown h
  refine ⟨?_, ?_, ⟨lit "GLX", by decide, hrecord.type_eq⟩, ?_⟩
  · rw [hrecord.node_eq]
    rfl
  · rw [hrecord.node_eq]
    rfl
  · rw [hrecord.pvp_eq]
    exact hs.size_pos _ _ hlt

/-- Records of different screens are not equal, so nothing is lost when they are collected. -/
theorem distinct_of_place {gpus : List GPUInfo} (h : (gpus.map place).Nodup) : Distinct gpus := by
  refine (List.pairwise_map.mp h).imp fun hab => ?_
  rw [Bool.eq_false_iff]
  intro heq
  obtain ⟨_, _, _, hport, hdevice, _⟩ := GPUInfo.beq_iff.mp heq
  exact hab (Prod.ext (congrArg UInt32.toNat hport) (congrArg UInt32.toNat hdevice))

theorem distinct_discover (hs : LocalServers env count size) (hown : env.DisplayIs own) :
    Distinct (discover env localNodeID) := by
  refine distinct_of_place ?_
  rw [discover_map_place localNodeID hs hown]
  exact nodup_front (nodup_cells TRY_PORTS count)

end Glx

namespace Sys

/-- A host that is found for an address. -/
def SockAddr.hosts (addr : SockAddr) : List Text :=
  addr.inetAddress.toList ++ addr.hostname.toList ++ addr.inet6Address.toList

/-- The names and hosts of the system are words. -/
def Words (entries : List IfAddrs) : Prop :=
  ∀ ifa ∈ entries, NoSpace ifa.ifa_name ∧ ∀ addr ∈ ifa.ifa_addr, ∀ t ∈ addr.hosts, NoSpace t

theorem lastOf_eq_some {φ : Type} {write : IfAddrs → SockAddr → Option φ}
    {entries : List IfAddrs} {a : φ} (h : lastOf write entries = some a) :
    ∃ ifa ∈ entries, ∃ addr, ifa.ifa_addr = some addr ∧ write ifa addr = some a := by
  obtain ⟨ifa, hifa, heq⟩ := List.mem_filterMap.mp (List.mem_of_getLast? h)
  exact ⟨ifa, hifa, Option.bind_eq_some_iff.mp heq⟩

/-- A field that all entries write in one way. -/
theorem forall_lastOf {φ : Type} {write : IfAddrs → SockAddr → Option φ} {P : φ → Prop}
    {entries : List IfAddrs} {default : φ} (hdefault : P default)
    (h : ∀ ifa ∈ entries, ∀ addr, ifa.ifa_addr = some addr → ∀ a, write ifa addr = some a → P a) :
    P ((lastOf write entries).getD default) := by
  cases hlast : lastOf write entries with
  | none => exact hdefault
  | some a =>
    obtain ⟨ifa, hifa, addr, haddr, hwrite⟩ := lastOf_eq_some hlast
    exact h ifa hifa addr haddr a hwrite

variable {localNodeID : UInt128} {entries : List IfAddrs}

theorem native_sys (h : Words entries) {info : NetInfo}
    (hinfo : info ∈ discover localNodeID (some entries)) : Net.Native info := by
  obtain ⟨hn, hrecord⟩ := mem_discover_iff.mp hinfo
  have hdescribes : Describes localNodeID (ofInterface info.name entries) info := by
    have hd : Describes localNodeID (ofInterface info.name entries)
        (record localNodeID entries info.name) := describes_record hn
    rwa [hrecord] at hd
  have hmem : ∀ ifa ∈ ofInterface info.name entries, ifa ∈ entries :=
    fun ifa => List.mem_of_mem_filter
  have hempty : NoSpace ([] : Text) := fun c hc => absurd hc List.not_mem_nil
  have hhosts : ∀ ifa ∈ ofInterface info.name entries, ∀ addr, ifa.ifa_addr = some addr →
      ∀ t ∈ addr.hosts, NoSpace t := fun ifa hifa addr haddr => (h ifa (hmem ifa hifa)).2 addr haddr
  have hname : NoSpace info.name := by
    obtain ⟨ifa, hifa, hname, _⟩ := ofKey_ne_nil.mp hn
    rw [← hname]
    exact (h ifa hifa).1
  refine ⟨by rw [hdescribes.node]; rfl, by rw [hdescribes.node]; rfl, ?_, ?_⟩
  · rw [hdescribes.type]
    refine forall_lastOf (by simp) fun ifa _ addr _ a ha => ?_
    cases addr with
    | packet sll_addr sll_hatype =>
      obtain rfl := Option.some.inj ha
      unfold packetType
      split_ifs <;> simp
    | inet | inet6 | other => cases ha
  · intro t ht
    simp only [NetInfo.texts, List.mem_cons, List.not_mem_nil, or_false] at ht
    rcases ht with rfl | rfl | rfl | rfl | rfl
    · exact hname
    · rw [hdescribes.hostname]
      exact forall_lastOf hempty fun ifa hifa addr haddr a ha =>
        hhosts ifa hifa addr haddr a (by simp [SockAddr.hosts, ha])
    · rw [hdescribes.hwAddress]
      refine forall_lastOf hempty fun ifa _ addr _ a ha => ?_
      cases addr with
      | packet sll_addr sll_hatype =>
        obtain rfl := Option.some.inj ha
        rw [mac_eq]
        exact noSpace_physicalText _
      | inet | inet6 | other => cases ha
    · rw [hdescribes.inetAddress]
      exact forall_lastOf hempty fun ifa hifa addr haddr a ha =>
        hhosts ifa hifa addr haddr a (by simp [SockAddr.hosts, ha])
    · rw [hdescribes.inet6Address]
      exact forall_lastOf hempty fun ifa hifa addr haddr a ha =>
        hhosts ifa hifa addr haddr a (by simp [SockAddr.hosts, ha])

omit entries localNodeID in
theorem lt_irrefl_name {n : Text} (h : compare n n = .lt) : False := by
  have heq : compare n n = .eq := Std.ReflCmp.compare_self
  rw [heq] at h
  cases h

omit entries localNodeID in
theorem distinct_of_sorted {nets : List NetInfo}
    (h : (nets.map NetInfo.name).Pairwise fun a b => compare a b = .lt) : Distinct nets := by
  refine (List.pairwise_map.mp h).imp fun hab => ?_
  rw [Bool.eq_false_iff]
  intro heq
  have hname := congrArg NetInfo.name (NetInfo.beq_iff.mp heq)
  simp only at hname
  rw [hname] at hab
  exact lt_irrefl_name hab

theorem distinct_discover : Distinct (discover localNodeID (some entries)) :=
  distinct_of_sorted sorted_discover

/-- An interface of loopback type that comes before all others of this type. -/
def FirstLoopback (entries : List IfAddrs) (n : Text) : Prop :=
  lastOf (fun _ => SockAddr.type) (ofInterface n entries) = some .loopback ∧
    ∀ m, compare m n = .lt →
      lastOf (fun _ => SockAddr.type) (ofInterface m entries) ≠ some .loopback

omit entries localNodeID in
/-- What is left out of a list that is sorted by name. -/
theorem mem_eraseLoopback {nets : List NetInfo}
    (h : (nets.map NetInfo.name).Pairwise fun a b => compare a b = .lt) {info : NetInfo} :
    info ∈ Net.eraseLoopback nets ↔ info ∈ nets ∧ ¬ (info.type = .loopback ∧
      ∀ b ∈ nets, compare b.name info.name = .lt → b.type ≠ .loopback) := by
  induction nets with
  | nil => simp [Net.eraseLoopback]
  | cons a nets ih =>
    rw [List.map_cons, List.pairwise_cons] at h
    obtain ⟨ha, h⟩ := h
    have hafter : ∀ b ∈ nets, compare a.name b.name = .lt := fun b hb =>
      ha b.name (List.mem_map_of_mem hb)
    have hne : ∀ b ∈ nets, compare b.name a.name ≠ .lt := by
      intro b hb hlt
      exact lt_irrefl_name (Std.TransCmp.lt_trans (hafter b hb) hlt)
    rw [Net.eraseLoopback]
    by_cases htype : a.type = .loopback
    · rw [if_pos htype]
      constructor
      · intro hinfo
        refine ⟨List.mem_cons_of_mem a hinfo, fun hfirst => ?_⟩
        exact hfirst.2 a (List.mem_cons_self ..) (hafter info hinfo) htype
      · rintro ⟨hinfo, hnot⟩
        rcases List.mem_cons.mp hinfo with rfl | hinfo
        · refine absurd ⟨htype, fun b hb hlt => ?_⟩ hnot
          rcases List.mem_cons.mp hb with rfl | hb
          · exact absurd hlt fun hlt => lt_irrefl_name hlt
          · exact absurd hlt (hne b hb)
        · exact hinfo
    · rw [if_neg htype, List.mem_cons, List.mem_cons, ih h]
      constructor
      · rintro (rfl | ⟨hinfo, hnot⟩)
        · exact ⟨.inl rfl, fun hfirst => htype hfirst.1⟩
        · refine ⟨.inr hinfo, fun hfirst => hnot ⟨hfirst.1, fun b hb => ?_⟩⟩
          exact hfirst.2 b (List.mem_cons_of_mem a hb)
      · rintro ⟨rfl | hinfo, hnot⟩
        · exact .inl rfl
        · refine .inr ⟨hinfo, fun hfirst => hnot ⟨hfirst.1, fun b hb hlt => ?_⟩⟩
          rcases List.mem_cons.mp hb with rfl | hb
          · exact htype
          · exact hfirst.2 b hb hlt

theorem type_eq_loopback_iff {info : NetInfo} (h : info ∈ discover localNodeID (some entries)) :
    info.type = .loopback ↔
      lastOf (fun _ => SockAddr.type) (ofInterface info.name entries) = some .loopback := by
  obtain ⟨hn, hrecord⟩ := mem_discover_iff.mp h
  have hdescribes : Describes localNodeID (ofInterface info.name entries)
      (record localNodeID entries info.name) := describes_record hn
  rw [hrecord] at hdescribes
  rw [hdescribes.type]
  cases lastOf (fun _ => SockAddr.type) (ofInterface info.name entries) with
  | none => simp
  | some type => simp

theorem mem_eraseLoopback_discover {info : NetInfo} :
    info ∈ Net.eraseLoopback (discover localNodeID (some entries)) ↔
      info ∈ discover localNodeID (some entries) ∧ ¬ FirstLoopback entries info.name := by
  rw [mem_eraseLoopback sorted_discover]
  refine and_congr_right fun hinfo => not_congr ?_
  rw [type_eq_loopback_iff hinfo]
  refine and_congr_right fun _ => ⟨fun h m hm htype => ?_, fun h b hb hlt htype => ?_⟩
  · obtain ⟨ifa, hifa, addr, haddr, _⟩ := lastOf_eq_some htype
    obtain ⟨hifa, hname⟩ := List.mem_filter.mp hifa
    have hn : Collect.ofKey key m entries ≠ [] :=
      ofKey_ne_nil.mpr ⟨ifa, hifa, of_decide_eq_true hname, by simp [haddr]⟩
    have hrecord : record localNodeID entries m ∈ discover localNodeID (some entries) :=
      mem_discover.mpr ⟨m, hn, rfl⟩
    have hm' : (record localNodeID entries m).name = m := name_record hn
    refine h _ hrecord (by rwa [hm']) ((type_eq_loopback_iff hrecord).mpr ?_)
    rwa [hm']
  · exact h b.name hlt ((type_eq_loopback_iff hb).mp htype)

theorem discover_getD (ifaddr : Option (List IfAddrs)) :
    discover localNodeID ifaddr = discover localNodeID (some (ifaddr.getD [])) := by
  cases ifaddr with
  | none => rfl
  | some entries => rfl

end Sys

/-! ## The daemon of a Linux machine -/

/-- A Linux machine, and the `hw_sd` that is started there. -/
structure LinuxDaemon where
  nodeID : UInt128
  env : Glx.Env
  /-- The answer of `getifaddrs`. -/
  ifaddr : Option (List Sys.IfAddrs)
  executable : Text
  options : Option DaemonOptions
  /-- Whether Servus announces. -/
  announced : Kind → Bool

/-- The X servers of the machine. Xlib knows its local displays, `DISPLAY` names one of them if it is
set, and the number of screens fits into an `unsigned`. -/
structure XServers (l : LinuxDaemon) where
  count : Nat → Nat
  size : Nat × Nat → Int32 × Int32
  own : Option Glx.LocalName
  local_servers : Glx.LocalServers l.env count size
  display : l.env.DisplayIs own
  few_screens : (cells Glx.TRY_PORTS count).length + 1 < UInt32.size

namespace LinuxDaemon

variable (l : LinuxDaemon)

def entries : List Sys.IfAddrs := l.ifaddr.getD []

def machine : Machine where
  nodeID := l.nodeID
  gpus :=
    { infos := fun
        | .glx => Glx.discover l.env l.nodeID
        | _ => []
      all := ∅, loc := ∅, announced := l.announced .gpu }
  nets :=
    { infos := fun
        | .sys => Sys.discover l.nodeID l.ifaddr
      all := ∅, loc := ∅, announced := l.announced .net }

def daemon : Daemon := ⟨⟨false, true, false⟩, l.machine, l.executable, l.options⟩

theorem foundGPUs_eq : l.daemon.foundGPUs = Glx.discover l.env l.nodeID := by
  simp [Daemon.foundGPUs, daemon, Build.modules, machine]

theorem foundNets_eq : l.daemon.foundNets = Sys.discover l.nodeID (some l.entries) :=
  Sys.discover_getD l.ifaddr

section

variable (M : Matchers) (U : Uint128Ops) (localNodeID : UInt128) (host : Text)

theorem few_gpus (x : XServers l) : l.daemon.foundGPUs.length < UInt32.size := by
  have hplaces := congrArg List.length (Glx.discover_map_place l.nodeID x.local_servers x.display)
  have hfront := length_front_le (Glx.ownPlace x.count x.own) (cells Glx.TRY_PORTS x.count)
  have hfew := x.few_screens
  rw [List.length_map] at hplaces
  rw [foundGPUs_eq]
  omega

theorem deliveredGPUs_eq (x : XServers l) : deliveredGPUs M U localNodeID host l.daemon =
    (Glx.discover l.env l.nodeID).map fun info =>
      { info with
        id := receivedID U l.nodeID localNodeID host, nodeName := host,
        session := sessionWord l.daemon.session } := by
  have hgpus : l.daemon.gpus M U = Glx.discover l.env l.nodeID := by
    rw [gpus_eq, foundGPUs_eq,
      run_dedup_of_new (Glx.distinct_discover x.local_servers x.display) (by simp)]
    rfl
  rw [deliveredGPUs, take_gpus M U (l.few_gpus x), hgpus]
  exact List.map_congr_left fun info hinfo =>
    (Glx.native_glx x.local_servers x.display hinfo).received_eq _ _ _

theorem deliveredNets_eq (hfew : (Sys.discover l.nodeID l.ifaddr).length < UInt32.size)
    (hwords : Sys.Words l.entries) :
    deliveredNets M U localNodeID host l.daemon =
      (Net.eraseLoopback (Sys.discover l.nodeID (some l.entries))).map fun info =>
        { info with
          id := receivedID U l.nodeID localNodeID host, nodeName := host,
          session := sessionWord l.daemon.session } := by
  have hnets : l.daemon.nets M U = Sys.discover l.nodeID (some l.entries) := by
    rw [nets_eq, foundNets_eq, run_dedup_of_new Sys.distinct_discover (by simp)]
    rfl
  have hfound : l.daemon.foundNets.length < UInt32.size := hfew
  rw [deliveredNets, take_nets M U hfound, hnets]
  exact List.map_congr_left fun info hinfo =>
    (Sys.native_sys hwords ((sublist_eraseLoopback _).subset hinfo)).received_eq _ _ _

end

end LinuxDaemon

/-! ## What other machines get to know -/

/-- Exactly the screens of a machine that are looked for, each once and with its size: that of
`DISPLAY` first, and then those of the servers `:0` to `:9`. A server with a higher number goes
unnoticed, but for the screen of `DISPLAY`. -/
structure Screens {l : LinuxDaemon} (x : XServers l) (host : Text) (gpus : List GPUInfo) :
    Prop where
  places : gpus.map Glx.place = front (Glx.ownPlace x.count x.own) (cells Glx.TRY_PORTS x.count)
  nodes : ∀ info ∈ gpus, info.nodeName = host ∧ info.session = sessionWord l.daemon.session
  records : ∀ info ∈ gpus, info.type = typeCode (lit "GLX") ∧
    info.pvp = ⟨0, 0, (x.size (Glx.place info)).1, (x.size (Glx.place info)).2⟩

namespace Screens

variable {l : LinuxDaemon} {x : XServers l} {host : Text} {gpus : List GPUInfo}

theorem distinct (h : Screens x host gpus) : Distinct gpus := by
  refine Glx.distinct_of_place ?_
  rw [h.places]
  exact nodup_front (nodup_cells Glx.TRY_PORTS x.count)

/-- The screens of a machine without its name. -/
theorem clear (h : Screens x host gpus) :
    Screens x [] (gpus.map fun info => { info with nodeName := [] }) := by
  refine ⟨?_, ?_, ?_⟩
  · rw [List.map_map]
    exact h.places
  · rw [List.forall_mem_map]
    exact fun info hinfo => ⟨rfl, (h.nodes info hinfo).2⟩
  · rw [List.forall_mem_map]
    exact h.records

end Screens

/-- The interfaces of a machine that have an address, in the order of their names and without the
first loopback interface; each record says what the entries of its interface say last. -/
structure Interfaces (l : LinuxDaemon) (host : Text) (nets : List NetInfo) : Prop where
  sorted : (nets.map NetInfo.name).Pairwise fun a b => compare a b = .lt
  names : ∀ name, name ∈ nets.map NetInfo.name ↔
    (∃ ifa ∈ l.entries, ifa.ifa_name = name ∧ ifa.ifa_addr ≠ none) ∧
      ¬ Sys.FirstLoopback l.entries name
  nodes : ∀ info ∈ nets, info.nodeName = host ∧ info.session = sessionWord l.daemon.session
  records : ∀ info ∈ nets, Sys.Describes l.nodeID (Sys.ofInterface info.name l.entries)
    { info with toNodeInfo := NodeInfo.new l.nodeID }

section

variable (M : Matchers) (U : Uint128Ops) (localNodeID : UInt128) (l : LinuxDaemon) (host : Text)

theorem screens_deliveredGPUs (x : XServers l) :
    Screens x host (deliveredGPUs M U localNodeID host l.daemon) := by
  rw [l.deliveredGPUs_eq M U localNodeID host x]
  refine ⟨?_, fun info hinfo => ?_, fun info hinfo => ?_⟩
  · rw [List.map_map, ← Glx.discover_map_place l.nodeID x.local_servers x.display]
    rfl
  · obtain ⟨found, _, rfl⟩ := List.mem_map.mp hinfo
    exact ⟨rfl, rfl⟩
  · obtain ⟨found, hfound, rfl⟩ := List.mem_map.mp hinfo
    obtain ⟨hrecord, _⟩ := Glx.isRecord_of_mem_discover x.local_servers x.display hfound
    exact ⟨hrecord.type_eq, hrecord.pvp_eq⟩

theorem interfaces_deliveredNets (hfew : (Sys.discover l.nodeID l.ifaddr).length < UInt32.size)
    (hwords : Sys.Words l.entries) :
    Interfaces l host (deliveredNets M U localNodeID host l.daemon) := by
  have hnames : (deliveredNets M U localNodeID host l.daemon).map NetInfo.name =
      (Net.eraseLoopback (Sys.discover l.nodeID (some l.entries))).map NetInfo.name := by
    rw [l.deliveredNets_eq M U localNodeID host hfew hwords, List.map_map]
    rfl
  refine ⟨?_, fun name => ?_, fun info hinfo => ?_, fun info hinfo => ?_⟩
  · rw [hnames]
    exact Sys.sorted_discover.sublist ((sublist_eraseLoopback _).map NetInfo.name)
  · rw [hnames, ← Sys.ofKey_ne_nil, List.mem_map]
    constructor
    · rintro ⟨info, hinfo, rfl⟩
      obtain ⟨hfound, hnot⟩ := Sys.mem_eraseLoopback_discover.mp hinfo
      exact ⟨(Sys.mem_discover_iff.mp hfound).1, hnot⟩
    · rintro ⟨hn, hnot⟩
      have hname : (Sys.record l.nodeID l.entries name).name = name := Sys.name_record hn
      refine ⟨Sys.record l.nodeID l.entries name, ?_, hname⟩
      refine Sys.mem_eraseLoopback_discover.mpr ⟨Sys.mem_discover.mpr ⟨name, hn, rfl⟩, ?_⟩
      rwa [hname]
  · rw [l.deliveredNets_eq M U localNodeID host hfew hwords] at hinfo
    obtain ⟨found, _, rfl⟩ := List.mem_map.mp hinfo
    exact ⟨rfl, rfl⟩
  · rw [l.deliveredNets_eq M U localNodeID host hfew hwords] at hinfo
    obtain ⟨found, hfound, rfl⟩ := List.mem_map.mp hinfo
    obtain ⟨hn, hrecord⟩ := Sys.mem_discover_iff.mp (Sys.mem_eraseLoopback_discover.mp hfound).1
    have hdescribes : Sys.Describes l.nodeID (Sys.ofInterface found.name l.entries)
        (Sys.record l.nodeID l.entries found.name) := Sys.describes_record hn
    rw [hrecord] at hdescribes
    simp only
    rw [← hdescribes.node]
    exact hdescribes

end

/-! ## A machine -/

/-- A machine with a server `:0` with two screens and a server `:12` with one, and three interfaces. -/
def oneLinux : LinuxDaemon where
  nodeID := 7
  env := { Glx.emptyEnv with
    display := some (lit ":12")
    openDisplay := Glx.openLocal fun i => if i = 0 then 2 else if i = 12 then 1 else 0 }
  ifaddr := some [
    ⟨lit "lo", Sys.IFF_UP, some (.packet (fun _ => 0) Sys.ARPHRD_LOOPBACK)⟩,
    ⟨lit "eth0", Sys.IFF_UP, some (.packet (fun i => UInt8.ofNat i) Sys.ARPHRD_ETHER)⟩,
    ⟨lit "lo", Sys.IFF_UP, some (.inet (some (lit "127.0.0.1")) (some (lit "localhost")))⟩,
    ⟨lit "eth0", Sys.IFF_UP, some (.inet (some (lit "192.168.0.2")) none)⟩]
  executable := lit "hw_sd"
  options := some ⟨⟨false, false, lit "default"⟩, true⟩
  announced := fun _ => true

def oneXServers : XServers oneLinux where
  count := fun i => if i = 0 then 2 else if i = 12 then 1 else 0
  size := fun _ => (1920, 1200)
  own := some ⟨lit "12", none, by decide, by simp⟩
  local_servers := Glx.localServers_openLocal (some (lit ":12"))
    (by intro i; split <;> [skip; split] <;> decide)
  display := rfl
  few_screens := by decide

theorem oneLinux_few :
    (Sys.discover oneLinux.nodeID oneLinux.ifaddr).length < UInt32.size := by decide

theorem oneLinux_words : Sys.Words oneLinux.entries := by
  intro ifa hifa
  simp only [LinuxDaemon.entries, oneLinux, Option.getD_some, List.mem_cons, List.not_mem_nil,
    or_false] at hifa
  rcases hifa with rfl | rfl | rfl | rfl <;> exact ⟨by decide, by decide⟩

theorem oneLinux_main :
    (oneLinux.daemon.main ⟨none, none⟩ hexUint128).1 = .never := by decide

theorem oneLinux_hasSome (kind : Kind) :
    oneLinux.daemon.hasSome ⟨none, none⟩ hexUint128 kind = true := by
  cases kind <;> decide

theorem oneLinux_serving (kind : Kind) :
    Serving (upCluster ⟨none, none⟩ hexUint128 (lit "node1") oneLinux.daemon) kind (lit "node1")
      oneLinux.daemon :=
  up_serving _ _ oneLinux_main (by cases kind <;> rfl) (oneLinux_hasSome kind)

/-! ## Results -/

/-- And to its interfaces, if the system tells their names and hosts in words without blanks. -/
theorem interfaces_delivered (M : Matchers) (U : Uint128Ops) (localNodeID : UInt128)
    (l : LinuxDaemon) (hfew : (Sys.discover l.nodeID l.ifaddr).length < UInt32.size)
    (hwords : Sys.Words l.entries) (n : Cluster) (h : Reachable (Daemon.program M U) n)
    (host : Text) (hserving : Serving n .net host l.daemon)
    (sn : Snapshot) (hsn : sn.lookup host = visible n .net host) :
    Interfaces l host (Net.discoverHost U localNodeID sn host) := by
  have hnets : Net.discoverHost U localNodeID sn host =
      deliveredNets M U localNodeID host l.daemon :=
    (netDelivery M U localNodeID).decode_serving h hserving hsn
  rw [hnets]
  exact interfaces_deliveredNets M U localNodeID l host hfew hwords

theorem interfaces_delivered_one :
    Interfaces oneLinux (lit "node1") (Net.discoverHost hexUint128 9
      (upSnapshot ⟨none, none⟩ hexUint128 (lit "node1") oneLinux.daemon .net) (lit "node1")) :=
  interfaces_delivered ⟨none, none⟩ hexUint128 9 oneLinux oneLinux_few oneLinux_words _
    (up_reachable _ _ _ _) _ (oneLinux_serving .net) _ (upSnapshot_lookup _ _ (oneLinux_serving .net))

end Hwsd
