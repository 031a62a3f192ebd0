import Hwsd.Apps.Browser

/-!
# Hwsd.Apps.Network

Daemons on many machines and a browser, with all their calls interleaved: daemons start, announce
one key after the other, and go away at any time, while the browser takes its browses one after the
other.

* `Delivery`: what a browser decodes of the announcement of a daemon. `gpuDelivery`, `netDelivery`:
  for both kinds it is all that the daemon has found, each record as it is `received`, so that no half
  of an announcement is seen.
* `Delivery.listed`: the list of the browser in terms of the daemons that are up.
-/

namespace Hwsd

open CxxStream Greedy KvStore DnsSd Publish

/-! ## Machines -/

/-- The lists of the native modules of a daemon. -/
def Daemon.foundGPUs (d : Daemon) : List GPUInfo := d.build.modules.flatMap d.machine.gpus.infos

def Daemon.foundNets (d : Daemon) : List NetInfo := d.machine.nets.infos .sys

/-- Machines by their host names, each with at most one daemon that runs. -/
abbrev Cluster := Publish.Network Text Daemon Kind Text Text

section

variable (M : Matchers) (U : Uint128Ops)

theorem gpus_eq (d : Daemon) : d.gpus M U = run (dedup Gpu.mergeFlags) [] d.foundGPUs := by
  have hlocal : Resource.localInfos d.machine.gpus d.gpuStack = d.foundGPUs := by
    rw [Resource.localInfos, Daemon.gpuStack, List.flatMap_append, List.flatMap_map]
    simp [Daemon.foundGPUs]
  rw [Daemon.gpus, Resource.announcedInfos, hlocal]
  rfl

theorem nets_eq (d : Daemon) :
    d.nets M U = run (dedup fun info _ => info) [] d.foundNets := by
  have hlocal : Resource.localInfos d.machine.nets Daemon.netStack = d.foundNets := by
    simp [Resource.localInfos, Daemon.netStack, Daemon.foundNets]
  rw [Daemon.nets, Resource.announcedInfos, hlocal]
  rfl

end

/-! ## What is delivered -/

/-- What another machine makes of the announcements of a daemon. -/
structure Delivery {α : Type} [BEq α] {R : Resource α} (N : Records R) (M : Matchers)
    (U : Uint128Ops) (kind : Kind) where
  delivered : Text → Daemon → List α
  decode_eq : ∀ {sn : Snapshot} {host : Text} {d : Daemon},
    Publish.Call.announce kind ∈ d.program M U →
    sn.lookup host = some (setAll (writes kind (d.program M U)) ∅) →
    N.decode sn host = delivered host d
  nodeName_eq : ∀ host d, ∀ info ∈ delivered host d, N.nodeName info = host
  session_eq : ∀ host d, ∀ info ∈ delivered host d, N.session info = sessionWord d.session

section Gpu

variable (M : Matchers) (U : Uint128Ops) (localNodeID : UInt128)

/-- The GPUs of a daemon as another machine knows them. No more can be counted. -/
def deliveredGPUs (host : Text) (d : Daemon) : List GPUInfo :=
  ((d.gpus M U).take (UInt32.size - 1)).map
    (Gpu.received (receivedID U d.machine.nodeID localNodeID host) host (sessionWord d.session))

theorem discoverHost_gpus {sn : Snapshot} {host : Text} {d : Daemon}
    (h : Publish.Call.announce Kind.gpu ∈ d.program M U)
    (hsn : sn.lookup host = some (setAll (writes .gpu (d.program M U)) ∅)) :
    Gpu.discoverHost U localNodeID sn host = deliveredGPUs M U localNodeID host d := by
  have hwrites : writes Kind.gpu (d.program M U) =
      spell Gpu.GPU (Gpu.log U d.machine.nodeID d.session (d.gpus M U)) :=
    (Daemon.writes_of_announced h).2
  rw [hwrites, ← Gpu.service_announceInfos] at hsn
  rw [Gpu.discoverHost_announced hsn, deliveredGPUs, extractText_session]

def gpuDelivery : Delivery (gpuRecords M U localNodeID) M U .gpu where
  delivered := deliveredGPUs M U localNodeID
  decode_eq := discoverHost_gpus M U localNodeID
  nodeName_eq host d info h := by
    obtain ⟨_, _, rfl⟩ := List.mem_map.mp h
    rfl
  session_eq host d info h := by
    obtain ⟨_, _, rfl⟩ := List.mem_map.mp h
    rfl

/-- All GPUs of a daemon are counted if its modules have found fewer than `2 ^ 32`. -/
theorem take_gpus {d : Daemon} (hfew : d.foundGPUs.length < UInt32.size) :
    (d.gpus M U).take (UInt32.size - 1) = d.gpus M U := by
  refine List.take_of_length_le ?_
  have hle := length_run_dedup_le Gpu.mergeFlags_isMerge d.foundGPUs
  rw [gpus_eq]
  omega

end Gpu

section Net

variable (M : Matchers) (U : Uint128Ops) (localNodeID : UInt128)

/-- The interfaces of a daemon as another machine knows them: without the first loopback interface. -/
def deliveredNets (host : Text) (d : Daemon) : List NetInfo :=
  ((Net.eraseLoopback (d.nets M U)).take (UInt32.size - 1)).map
    (Net.received (receivedID U d.machine.nodeID localNodeID host) host (sessionWord d.session))

theorem sublist_eraseLoopback (nets : List NetInfo) : (Net.eraseLoopback nets).Sublist nets := by
  induction nets with
  | nil => exact List.Sublist.refl _
  | cons info nets ih =>
    rw [Net.eraseLoopback]
    split
    · exact List.sublist_cons_self info nets
    · exact ih.cons_cons info

/-- Only a loopback interface can be left out. -/
theorem mem_eraseLoopback_of_ne {nets : List NetInfo} {info : NetInfo} (h : info ∈ nets)
    (htype : info.type ≠ .loopback) : info ∈ Net.eraseLoopback nets := by
  induction nets with
  | nil => cases h
  | cons a nets ih =>
    rw [Net.eraseLoopback]
    rcases List.mem_cons.mp h with rfl | h
    · rw [if_neg htype]
      exact List.mem_cons_self ..
    · split
      · exact h
      · exact List.mem_cons_of_mem a (ih h)

theorem discoverHost_nets {sn : Snapshot} {host : Text} {d : Daemon}
    (h : Publish.Call.announce Kind.net ∈ d.program M U)
    (hsn : sn.lookup host = some (setAll (writes .net (d.program M U)) ∅)) :
    Net.discoverHost U localNodeID sn host = deliveredNets M U localNodeID host d := by
  have hwrites : writes Kind.net (d.program M U) =
      spell Net.NET (Net.log U d.machine.nodeID d.session (d.nets M U)) :=
    (Daemon.writes_of_announced h).2
  rw [hwrites, ← Net.service_announceInfos] at hsn
  rw [Net.discoverHost_announced hsn, deliveredNets, extractText_session]

def netDelivery : Delivery (netRecords M U localNodeID) M U .net where
  delivered := deliveredNets M U localNodeID
  decode_eq := discoverHost_nets M U localNodeID
  nodeName_eq host d info h := by
    obtain ⟨_, _, rfl⟩ := List.mem_map.mp h
    rfl
  session_eq host d info h := by
    obtain ⟨_, _, rfl⟩ := List.mem_map.mp h
    rfl

theorem take_nets {d : Daemon} (hfew : d.foundNets.length < UInt32.size) :
    (Net.eraseLoopback (d.nets M U)).take (UInt32.size - 1) = Net.eraseLoopback (d.nets M U) := by
  refine List.take_of_length_le ?_
  have herase := (sublist_eraseLoopback (d.nets M U)).length_le
  have hle := length_run_dedup_le Net.keepFirst_isMerge d.foundNets
  rw [nets_eq] at herase ⊢
  omega

end Net

/-! ## What the browser lists -/

/-- The list of a browser on the machine `here` that is asked for the session `t`, told from its own
records and the daemons `found`. It browses all machines while the network goes through `states`, and
its own machine while the network goes through `states'`, where it finds `loc`. -/
structure Lists {α : Type} [BEq α] {R : Resource α} {N : Records R} {M : Matchers} {U : Uint128Ops}
    {kind : Kind} (D : Delivery N M U kind) (here t : Text) (states states' : List Cluster)
    (loc : Snapshot) (own : List α) (found : List (Text × Daemon)) (result : List α) : Prop where
  nodup : (found.map Prod.fst).Nodup
  /-- Every daemon that it lists was up with a complete announcement at some moment. -/
  up : ∀ f ∈ found, ∃ n ∈ states, Serving n kind f.1 f.2
  /-- No daemon that was up all the time is missing. -/
  all_up : ∀ host d, (∀ n ∈ states, Serving n kind host d) → (host, d) ∈ found
  /-- The own records first, and then daemon after daemon all that it has announced, as far as it is
  in the session and without duplicates. -/
  result_eq : result = run (dedup N.merge) [] ((own ++ found.flatMap fun f =>
    markLocal N.clear (D.delivered f.1 f.2) (N.hosts loc)).filter (N.inSession t))
  /-- What is announced on other machines keeps its node name. -/
  remote : ∀ f ∈ found, f.1 ≠ here →
    markLocal N.clear (D.delivered f.1 f.2) (N.hosts loc) = D.delivered f.1 f.2
  /-- What the daemon of this machine announces all the time loses it. -/
  here_cleared : ∀ d, (∀ n ∈ states', Serving n kind here d) →
    markLocal N.clear (D.delivered here d) (N.hosts loc) = (D.delivered here d).map N.clear
  /-- Nothing that is announced is merged if no two records of a daemon arrive as equals, and no
  daemon goes without a name or by a session that is read as that of a local record. -/
  whole : (∀ a ∈ own, N.session a = getLocalSession) →
    (∀ f ∈ found, f.1 ≠ [] ∧ sessionWord f.2.session ≠ getLocalSession ∧
      Distinct (D.delivered f.1 f.2)) →
    result = run (dedup N.merge) [] (own.filter (N.inSession t)) ++ found.flatMap fun f =>
      if t = [] ∨ sessionWord f.2.session = t then
        markLocal N.clear (D.delivered f.1 f.2) (N.hosts loc)
      else []

namespace Delivery

variable {α ι : Type} [BEq α] [EquivBEq α] {R : Resource α} {N : Records R} {M : Matchers}
  {U : Uint128Ops} {kind : Kind} (D : Delivery N M U kind)

omit [EquivBEq α] in
/-- The record of a daemon that is up is decoded as a whole. -/
theorem decode_serving {n : Cluster} (h : Reachable (Daemon.program M U) n) {host : Text}
    {d : Daemon} (hserving : Serving n kind host d) {sn : Snapshot}
    (hsn : sn.lookup host = visible n kind host) : N.decode sn host = D.delivered host d := by
  refine D.decode_eq (announce_mem_of_serving h hserving) ?_
  rw [hsn, visible_of_serving (Daemon.program_tidy M U) h hserving]

omit [EquivBEq α] in
/-- A browse decodes the daemons that it finds, each as a whole. -/
theorem hosts_eq {states : List Cluster} (hwindow : Window (Daemon.program M U) states)
    {scope : Set Text} {sn : Snapshot} (h : Browsed states scope kind sn) :
    ∃ found : List (Text × Daemon), sn.keys = found.map Prod.fst ∧
      (∀ f ∈ found, f.1 ∈ scope ∧ ∃ n ∈ states, Serving n kind f.1 f.2) ∧
      (∀ host ∈ scope, ∀ d, (∀ n ∈ states, Serving n kind host d) → (host, d) ∈ found) ∧
      N.hosts sn = found.flatMap fun f => D.delivered f.1 f.2 := by
  obtain ⟨found, hentries, hup, hall⟩ := h.found (Daemon.program_tidy M U) hwindow
  have hkeys : sn.keys = found.map Prod.fst := by
    rw [AList.keys, hentries, List.keys, List.map_map]
    rfl
  refine ⟨found, hkeys, hup, hall, ?_⟩
  rw [Records.hosts, hkeys, List.flatMap_map]
  refine List.flatMap_congr fun f hf => ?_
  obtain ⟨_, n, hn, hserving⟩ := hup f hf
  refine D.decode_eq (announce_mem_of_serving (hwindow.reachable_of_mem n hn) hserving) ?_
  rw [← Option.mem_def, AList.mem_lookup_iff, hentries]
  exact List.mem_map.mpr ⟨f, hf, rfl⟩

omit [EquivBEq α] in
theorem distinct_hosts {found : List (Text × Daemon)} (hnodup : (found.map Prod.fst).Nodup)
    (hdistinct : ∀ f ∈ found, Distinct (D.delivered f.1 f.2)) :
    Distinct (found.flatMap fun f => D.delivered f.1 f.2) := by
  rw [Distinct, List.pairwise_flatMap]
  refine ⟨hdistinct, (List.pairwise_map.mp hnodup).imp ?_⟩
  intro f g hfg a ha b hb
  by_contra heq
  rw [Bool.not_eq_false] at heq
  apply hfg
  rw [← D.nodeName_eq f.1 f.2 a ha, ← D.nodeName_eq g.1 g.2 b hb]
  exact N.nodeName_congr a b heq

omit [EquivBEq α] in
theorem filter_delivered (t host : Text) (d : Daemon) :
    (D.delivered host d).filter (N.inSession t) =
      if t = [] ∨ sessionWord d.session = t then D.delivered host d else [] := by
  have hsession : ∀ a ∈ D.delivered host d,
      N.inSession t a = decide (t = [] ∨ sessionWord d.session = t) := by
    intro a ha
    rw [Records.inSession, D.session_eq host d a ha]
  rw [List.filter_congr hsession]
  split
  · rename_i h
    simp [h]
  · rename_i h
    simp [h]

/-- Whatever daemons do meanwhile, a browser lists those that it finds with all that they have
announced. -/
theorem listed {states states' : List Cluster} (hwindow : Window (Daemon.program M U) states)
    (hwindow' : Window (Daemon.program M U) states') {here : Text} (t : Text) (natives : List ι)
    (w : World ι α) {s : Impl} (hs : s.announcing = false)
    (hall : Browsed states Set.univ kind w.all) (hloc : Browsed states' {here} kind w.loc) :
    ∃ found, Lists D here t states states' w.loc (natives.flatMap w.infos) found
      (R.discoverInfos w (natives.map .native ++ [.dnsSd]) s (some (browserFilter t))) := by
  obtain ⟨found, hkeys, hup, hmissed, hhosts⟩ := D.hosts_eq hwindow hall
  obtain ⟨found', hkeys', hup', hmissed', hhosts'⟩ := D.hosts_eq hwindow' hloc
  have hnodup : (found.map Prod.fst).Nodup := hkeys ▸ AList.keys_nodup w.all
  have hhere : ∀ a ∈ N.hosts w.loc, N.nodeName a = here := by
    rw [hhosts', List.forall_mem_flatMap]
    intro f hf a ha
    rw [D.nodeName_eq f.1 f.2 a ha]
    exact (hup' f hf).1
  have hmark : ∀ g : Text × Daemon → List α, markLocal N.clear (found.flatMap g) (N.hosts w.loc) =
      found.flatMap fun f => markLocal N.clear (g f) (N.hosts w.loc) := by
    intro g
    simp only [markLocal, List.map_flatMap]
  refine ⟨found, hnodup, fun f hf => (hup f hf).2, fun host d => hmissed host trivial d, ?_, ?_, ?_,
    ?_⟩
  · rw [N.discoverInfos_run w hs t natives, hhosts, hmark]
  · intro f hf hne
    refine N.markLocal_of_ne fun a ha l hl heq => hne ?_
    rw [← D.nodeName_eq f.1 f.2 a ha, ← heq, hhere l hl]
  · intro d hd
    refine N.markLocal_of_subset fun a ha => ?_
    rw [hhosts']
    exact List.mem_flatMap.mpr ⟨(here, d), hmissed' here rfl d hd, ha⟩
  · intro hown hfound
    have hfilter : (found.flatMap fun f => D.delivered f.1 f.2).filter (N.inSession t) =
        found.flatMap fun f =>
          if t = [] ∨ sessionWord f.2.session = t then D.delivered f.1 f.2 else [] := by
      rw [List.filter_flatMap]
      exact List.flatMap_congr fun f _ => D.filter_delivered t f.1 f.2
    rw [N.discoverInfos_run w hs t natives, hhosts, N.run_apart t, hfilter, hmark]
    · congr 1
      refine List.flatMap_congr fun f _ => ?_
      split <;> rfl
    · exact D.distinct_hosts hnodup fun f hf => (hfound f hf).2.2
    · rw [List.forall_mem_flatMap]
      intro f hf a ha
      rw [D.nodeName_eq f.1 f.2 a ha]
      exact (hfound f hf).1
    · intro a ha b hb
      rw [hhere a ha, hhere b hb]
    · intro a ha b hb
      obtain ⟨f, hf, hb⟩ := List.mem_flatMap.mp hb
      rw [hown a ha, D.session_eq f.1 f.2 b hb]
      exact (hfound f hf).2.1.symm

end Delivery

/-! ## One daemon that is up -/

section Up

variable (M : Matchers) (U : Uint128Ops)

/-- The network with one daemon that has made all its calls. -/
def upCluster (host : Text) (d : Daemon) : Cluster :=
  Function.update (fun _ => none) host
    (some ⟨d, performAll (fun _ => Service.idle) (d.program M U), []⟩)

theorem up_reachable (host : Text) (d : Daemon) :
    Reachable (Daemon.program M U) (upCluster M U host d) :=
  reachable_alone host d

theorem up_window (host : Text) (d : Daemon) :
    Window (Daemon.program M U) [upCluster M U host d] where
  chain := List.IsChain.singleton _
  reachable n hn := by
    obtain rfl : upCluster M U host d = n := Option.some.inj hn
    exact up_reachable M U host d

theorem up_serving {host : Text} {d : Daemon} {kind : Kind}
    (hexit : (d.main M U).1 = .never) (hused : d.used kind = true)
    (hsome : d.hasSome M U kind = true) : Serving (upCluster M U host d) kind host d := by
  refine ⟨_, Function.update_self host _ _, rfl, ?_⟩
  have hserves := (Daemon.serves M U d kind).1 hexit
  rw [hused, hsome, Bool.and_self, if_pos rfl] at hserves
  exact congrArg Service.announced hserves

/-- What a browse of that network finds. -/
def upSnapshot (host : Text) (d : Daemon) (kind : Kind) : Snapshot :=
  (∅ : Snapshot).insert host (setAll (writes kind (d.program M U)) ∅)

/-- What it finds of the daemon is what there is to see. -/
theorem upSnapshot_lookup {host : Text} {d : Daemon} {kind : Kind}
    (hserving : Serving (upCluster M U host d) kind host d) :
    (upSnapshot M U host d kind).lookup host = visible (upCluster M U host d) kind host := by
  rw [visible_of_serving (Daemon.program_tidy M U) (up_reachable M U host d) hserving]
  exact AList.lookup_insert _

theorem up_browsed {host : Text} {d : Daemon} {kind : Kind}
    (hexit : (d.main M U).1 = .never) (hused : d.used kind = true)
    (hsome : d.hasSome M U kind = true) {scope : Set Text} (hscope : host ∈ scope) :
    Browsed [upCluster M U host d] scope kind (upSnapshot M U host d kind) := by
  have hserving : Serving (upCluster M U host d) kind host d := up_serving M U hexit hused hsome
  have hvisible := visible_of_serving (Daemon.program_tidy M U) (up_reachable M U host d) hserving
  have hmem : ∀ i, i ∈ upSnapshot M U host d kind ↔ i = host := by
    intro i
    rw [upSnapshot, AList.mem_insert]
    simp [AList.notMem_empty]
  refine ⟨fun i hi => ((hmem i).mp hi).symm ▸ hscope, fun i r hr => ?_, fun i _ hall => ?_⟩
  · have hi : i ∈ upSnapshot M U host d kind := by
      rw [← AList.lookup_isSome, hr]
      rfl
    obtain rfl := (hmem i).mp hi
    rw [upSnapshot, AList.lookup_insert, Option.some.injEq] at hr
    exact ⟨_, List.mem_singleton_self _, hr ▸ hvisible⟩
  · rw [hmem]
    by_contra hne
    have hsome := hall _ (List.mem_singleton_self _)
    rw [visible, upCluster, Function.update_of_ne hne] at hsome
    cases hsome

end Up

/-- A machine with a GPU and two interfaces. -/
def oneMachine : Machine where
  nodeID := 7
  gpus :=
    { infos := fun _ => [{ GPUInfo.ofName 7 (lit "GLX") with pvp := ⟨0, 0, 1920, 1080⟩ }]
      all := ∅, loc := ∅, announced := true }
  nets :=
    { infos := fun _ => [{ NetInfo.new 7 with type := .loopback, name := lit "lo" },
        { NetInfo.new 7 with type := .ethernet, name := lit "eth0", up := true }]
      all := ∅, loc := ∅, announced := true }

/-- The daemon of the machine. -/
def oneDaemon : Daemon where
  build := ⟨false, true, false⟩
  machine := oneMachine
  executable := lit "hw_sd"
  options := some ⟨⟨false, false, lit "default"⟩, true⟩

theorem oneDaemon_main : (oneDaemon.main ⟨none, none⟩ hexUint128).1 = .never := by decide

/-- A browser on the machine of the daemon. -/
def oneBrowser : Browser := ⟨⟨false, true, false⟩, lit "hw_sd_list", some ⟨false, false, []⟩⟩

/-- What it finds while only that daemon is up. -/
def oneGPUs : World GPUModule GPUInfo :=
  { oneMachine.gpus with
    all := upSnapshot ⟨none, none⟩ hexUint128 (lit "node1") oneDaemon .gpu
    loc := upSnapshot ⟨none, none⟩ hexUint128 (lit "node1") oneDaemon .gpu }

def oneNets : World NetModule NetInfo :=
  { oneMachine.nets with
    all := upSnapshot ⟨none, none⟩ hexUint128 (lit "node1") oneDaemon .net
    loc := upSnapshot ⟨none, none⟩ hexUint128 (lit "node1") oneDaemon .net }

/-! ## Results -/

/-- In every network that is reachable, whatever daemons have started, announced and gone in
whatever order, a record that can be seen is decoded to all that a daemon which is up has found. -/
theorem visible_whole (M : Matchers) (U : Uint128Ops) (localNodeID : UInt128) (n : Cluster)
    (h : Reachable (Daemon.program M U) n) (host : Text) (sn : Snapshot) :
    (∀ r, visible n .gpu host = some r → sn.lookup host = some r → ∃ d, Serving n .gpu host d ∧
      Gpu.discoverHost U localNodeID sn host = deliveredGPUs M U localNodeID host d) ∧
    ∀ r, visible n .net host = some r → sn.lookup host = some r → ∃ d, Serving n .net host d ∧
      Net.discoverHost U localNodeID sn host = deliveredNets M U localNodeID host d := by
  constructor
  · intro r hr hsn
    obtain ⟨d, hserving, rfl⟩ := visible_complete (Daemon.program_tidy M U) h hr
    exact ⟨d, hserving, discoverHost_gpus M U localNodeID (announce_mem_of_serving h hserving) hsn⟩
  · intro r hr hsn
    obtain ⟨d, hserving, rfl⟩ := visible_complete (Daemon.program_tidy M U) h hr
    exact ⟨d, hserving,
      discoverHost_nets M U localNodeID (announce_mem_of_serving h hserving) hsn⟩

theorem visible_whole_one :
    let n := upCluster ⟨none, none⟩ hexUint128 (lit "node1") oneDaemon
    let sn := upSnapshot ⟨none, none⟩ hexUint128 (lit "node1") oneDaemon .gpu
    (∀ r, visible n .gpu (lit "node1") = some r → sn.lookup (lit "node1") = some r →
      ∃ d, Serving n .gpu (lit "node1") d ∧ Gpu.discoverHost hexUint128 9 sn (lit "node1") =
        deliveredGPUs ⟨none, none⟩ hexUint128 9 (lit "node1") d) ∧
    ∀ r, visible n .net (lit "node1") = some r → sn.lookup (lit "node1") = some r →
      ∃ d, Serving n .net (lit "node1") d ∧ Net.discoverHost hexUint128 9 sn (lit "node1") =
        deliveredNets ⟨none, none⟩ hexUint128 9 (lit "node1") d :=
  visible_whole ⟨none, none⟩ hexUint128 9 _ (up_reachable _ _ _ _) _ _

/-- A daemon that is to wait can always come to that: in whatever state the others are, its own calls
lead to its whole announcement of what it has found, and leave them as they are. -/
theorem can_serve (M : Matchers) (U : Uint128Ops) (n : Cluster)
    (h : Reachable (Daemon.program M U) n) (host : Text) (p : Process Daemon Kind Text Text)
    (hp : n host = some p) (hexit : (p.tag.main M U).1 = .never) (kind : Kind)
    (hused : p.tag.used kind = true) (hsome : p.tag.hasSome M U kind = true) :
    ∃ n', Relation.ReflTransGen (OwnCall host) n n' ∧ Serving n' kind host p.tag ∧
      visible n' kind host = some (p.tag.published M U p.tag.session kind) ∧
      ∀ host', host' ≠ host → n' host' = n host' := by
  have hserves := (Daemon.serves M U p.tag kind).1 hexit
  rw [hused, hsome, Bool.and_self, if_pos rfl] at hserves
  have hannounce : Publish.Call.announce kind ∈ p.tag.program M U :=
    mem_of_announced rfl (congrArg Service.announced hserves)
  have hwithdraw : Publish.Call.withdraw kind ∉ p.tag.program M U :=
    Daemon.withdraw_not_mem hexit kind
  obtain ⟨n', hrun, hserving, hvisible, hothers⟩ :=
    can_announce (Daemon.program_tidy M U) h hp hannounce hwithdraw
  refine ⟨n', hrun, hserving, ?_, hothers⟩
  rw [hvisible, Daemon.published_eq]
  exact congrArg (fun ws => some (setAll ws ∅)) (Daemon.writes_of_announced hannounce).2

theorem can_serve_started :
    let p : Process Daemon Kind Text Text :=
      ⟨oneDaemon, fun _ => Service.idle, oneDaemon.program ⟨none, none⟩ hexUint128⟩
    let n : Cluster := Function.update (fun _ => none) (lit "node1") (some p)
    ∃ n', Relation.ReflTransGen (OwnCall (lit "node1")) n n' ∧
      Serving n' .net (lit "node1") p.tag ∧
      visible n' .net (lit "node1") =
        some (p.tag.published ⟨none, none⟩ hexUint128 p.tag.session .net) ∧
      ∀ host', host' ≠ lit "node1" → n' host' = n host' :=
  can_serve ⟨none, none⟩ hexUint128 _
    (Relation.ReflTransGen.single (Step.start oneDaemon rfl)) _ _ (Function.update_self _ _ _)
    oneDaemon_main .net (by decide) (by decide)

/-- A browser prints what its modules report and what it finds of the daemons that are up, in the
session that it is asked for and without duplicates. -/
theorem main_lists (M : Matchers) (U : Uint128Ops) (localNodeID : UInt128) (b : Browser) (o : Options)
    (ho : b.options = some o) (hrun : (o.help || o.version) = false)
    (gpus : World GPUModule GPUInfo) (nets : World NetModule NetInfo)
    (here : Text) (gpuStates gpuStates' netStates netStates' : List Cluster)
    (hgpuWindow : Window (Daemon.program M U) gpuStates)
    (hgpuWindow' : Window (Daemon.program M U) gpuStates')
    (hnetWindow : Window (Daemon.program M U) netStates)
    (hnetWindow' : Window (Daemon.program M U) netStates')
    (hgpuAll : Browsed gpuStates Set.univ .gpu gpus.all)
    (hgpuLoc : Browsed gpuStates' {here} .gpu gpus.loc)
    (hnetAll : Browsed netStates Set.univ .net nets.all)
    (hnetLoc : Browsed netStates' {here} .net nets.loc) :
    ∃ foundGPUs foundNets listedGPUs listedNets,
      b.main M U localNodeID gpus nets = (.success,
        (if b.executable ≠ lit "net_sd_list" then printGPUs U listedGPUs else []) ++
          (if b.executable ≠ lit "gpu_sd_list" then printNets U listedNets else [])) ∧
      Lists (gpuDelivery M U localNodeID) here o.session gpuStates gpuStates' gpus.loc
        (b.gpuModules.flatMap gpus.infos) foundGPUs listedGPUs ∧
      Lists (netDelivery M U localNodeID) here o.session netStates netStates' nets.loc
        (b.netModules.flatMap nets.infos) foundNets listedNets := by
  obtain ⟨foundGPUs, hlistedGPUs⟩ := (gpuDelivery M U localNodeID).listed hgpuWindow hgpuWindow'
    o.session b.gpuModules gpus (s := ⟨Gpu.fresh, false⟩) rfl hgpuAll hgpuLoc
  obtain ⟨foundNets, hlistedNets⟩ := (netDelivery M U localNodeID).listed hnetWindow hnetWindow'
    o.session b.netModules nets (s := ⟨Net.fresh, false⟩) rfl hnetAll hnetLoc
  refine ⟨foundGPUs, foundNets, b.gpus M U localNodeID o.session gpus,
    b.nets M U localNodeID o.session nets, ?_, hlistedGPUs, hlistedNets⟩
  rw [Browser.main, ho]
  simp only [hrun, Bool.false_eq_true, if_false]

theorem main_lists_one :
    let M : Matchers := ⟨none, none⟩
    let states := [upCluster M hexUint128 (lit "node1") oneDaemon]
    ∃ foundGPUs foundNets listedGPUs listedNets,
      oneBrowser.main M hexUint128 9 oneGPUs oneNets = (.success,
        (if oneBrowser.executable ≠ lit "net_sd_list" then printGPUs hexUint128 listedGPUs else []) ++
          (if oneBrowser.executable ≠ lit "gpu_sd_list" then printNets hexUint128 listedNets
          else [])) ∧
      Lists (gpuDelivery M hexUint128 9) (lit "node1") [] states states oneGPUs.loc
        (oneBrowser.gpuModules.flatMap oneGPUs.infos) foundGPUs listedGPUs ∧
      Lists (netDelivery M hexUint128 9) (lit "node1") [] states states oneNets.loc
        (oneBrowser.netModules.flatMap oneNets.infos) foundNets listedNets := by
  intro M states
  have hwindow : Window (Daemon.program M hexUint128) states := up_window M hexUint128 _ _
  have hgpu : ∀ scope : Set Text, lit "node1" ∈ scope →
      Browsed states scope .gpu (upSnapshot M hexUint128 (lit "node1") oneDaemon .gpu) :=
    fun scope => up_browsed M hexUint128 oneDaemon_main (by decide) (by decide)
  have hnet : ∀ scope : Set Text, lit "node1" ∈ scope →
      Browsed states scope .net (upSnapshot M hexUint128 (lit "node1") oneDaemon .net) :=
    fun scope => up_browsed M hexUint128 oneDaemon_main (by decide) (by decide)
  exact main_lists M hexUint128 9 oneBrowser ⟨false, false, []⟩ rfl rfl oneGPUs oneNets (lit "node1")
    states states states states hwindow hwindow hwindow hwindow (hgpu _ trivial) (hgpu _ rfl)
    (hnet _ trivial) (hnet _ rfl)

end Hwsd
