import Hwsd.Apps.Daemon
import Hwsd.Localhost

/-!
# Hwsd.Apps.Browser

The browser `hw_sd_list` (`apps/hw_sd_list/hw_sd_list.cpp`): it prints the GPUs and the network
interfaces that a discovery finds, without duplicates and of one session if it is asked for one.
Under the names `gpu_sd_list` and `net_sd_list` it prints one of the two lists, and only of what
other machines announce.

* `Records`: what the discovery of either resource needs to know about its records.
* `discoverInfos_run`: the list of one discovery. `run_apart`: nothing of it is merged if no two
  announced records are equal and none is of a session of the records of this machine.
-/

namespace Hwsd

open CxxStream Greedy DnsSd

/-- The filter of the browser. -/
def browserFilter (session : Text) : Filter :=
  if session ≠ [] then Filter.duplicate ||| Filter.session session else Filter.duplicate

structure Browser where
  build : Build
  executable : Text
  /-- `none` if the command line cannot be parsed. -/
  options : Option Options

namespace Browser

/-- Whether the browser looks at its own machine too. -/
def native (b : Browser) : Bool :=
  b.executable ≠ lit "net_sd_list" ∧ b.executable ≠ lit "gpu_sd_list"

/-- The native modules that are used. -/
def gpuModules (b : Browser) : List GPUModule := if b.native then b.build.modules else []

def netModules (b : Browser) : List NetModule := if b.native then [.sys] else []

variable (M : Matchers) (U : Uint128Ops) (localNodeID : UInt128) (b : Browser)

def gpus (session : Text) (w : World GPUModule GPUInfo) : List GPUInfo :=
  discoverGPUInfos M U localNodeID w (b.gpuModules.map .native ++ [.dnsSd]) ⟨Gpu.fresh, false⟩
    (some (browserFilter session))

def nets (session : Text) (w : World NetModule NetInfo) : List NetInfo :=
  discoverNetInfos M U localNodeID w (b.netModules.map .native ++ [.dnsSd]) ⟨Net.fresh, false⟩
    (some (browserFilter session))

/-- `main`: how it ends, and what it prints after the options are read, besides log messages. -/
def main (gpus : World GPUModule GPUInfo) (nets : World NetModule NetInfo) : Exit × Text :=
  match b.options with
  | none => (.failure, [])
  | some options =>
    if options.help || options.version then (.success, []) else
    (.success,
      (if b.executable ≠ lit "net_sd_list" then
        printGPUs U (b.gpus M U localNodeID options.session gpus) else []) ++
      (if b.executable ≠ lit "gpu_sd_list" then
        printNets U (b.nets M U localNodeID options.session nets) else []))

end Browser

/-! ## What a discovery finds -/

/-- What a discovery needs to know about the records of a resource. -/
structure Records {α : Type} [BEq α] (R : Resource α) where
  merge : α → α → α
  nodeName : α → Text
  session : α → Text
  clear : α → α
  decode : Snapshot → Text → List α
  isMerge : IsMerge merge
  test_duplicate : R.test .duplicate = dedup merge
  test_session : ∀ t, R.test (.session t) = pass fun info => decide (t = [] ∨ session info = t)
  browse_eq : ∀ all loc, R.browse all loc =
    markLocal clear (all.keys.flatMap (decode all)) (loc.keys.flatMap (decode loc))
  nodeName_congr : ∀ a b, (a == b) = true → nodeName a = nodeName b
  session_congr : ∀ a b, (a == b) = true → session a = session b
  nodeName_clear : ∀ a, nodeName (clear a) = []
  session_clear : ∀ a, session (clear a) = session a
  beq_of_clear : ∀ a b, (clear a == clear b) = true → nodeName a = nodeName b → (a == b) = true

namespace Records

variable {α ι : Type} [BEq α] [EquivBEq α] {R : Resource α} (N : Records R)

/-- A record that a session filter lets through. -/
def inSession (t : Text) (info : α) : Bool := decide (t = [] ∨ N.session info = t)

/-- The records that are decoded from a browse. -/
def hosts (sn : Snapshot) : List α := sn.keys.flatMap (N.decode sn)

omit [EquivBEq α] in
theorem filter_markLocal (t : Text) (infos loc : List α) :
    (markLocal N.clear infos loc).filter (N.inSession t) =
      markLocal N.clear (infos.filter (N.inSession t)) loc := by
  rw [markLocal, markLocal, List.filter_map]
  congr 1
  refine List.filter_congr fun info _ => ?_
  simp only [Function.comp, inSession]
  split
  · rw [N.session_clear]
  · rfl

omit [EquivBEq α] in
/-- The filter of the browser deduplicates what is in the session. -/
theorem run_browserFilter (t : Text) (xs : List α) :
    run (selector R.test (some (browserFilter t))) [] xs =
      run (dedup N.merge) [] (xs.filter (N.inSession t)) := by
  rw [selector, browserFilter]
  split
  · rw [Filter.duplicate, Filter.session, Filter.call_or, N.test_duplicate, N.test_session]
    refine run_both_dedup_pass N.isMerge ?_ xs [] (by simp)
    intro a b hab
    rw [N.session_congr a b hab]
  · rename_i ht
    have ht' : t = [] := not_not.mp ht
    have hall : xs.filter (N.inSession t) = xs := by
      refine List.filter_eq_self.mpr fun a _ => ?_
      simp [inSession, ht']
    rw [Filter.call_duplicate, N.test_duplicate, hall]

omit [EquivBEq α] in
/-- Records that differ still do so when those of this machine are marked. -/
theorem distinct_markLocal {infos loc : List α} (hd : Distinct infos)
    (hname : ∀ a ∈ infos, N.nodeName a ≠ [])
    (hloc : ∀ a ∈ loc, ∀ b ∈ loc, N.nodeName a = N.nodeName b) :
    Distinct (markLocal N.clear infos loc) := by
  rw [Distinct, markLocal, List.pairwise_map]
  refine hd.imp_of_mem fun {a b} ha hb hab => ?_
  by_contra heq
  rw [Bool.not_eq_false] at heq
  by_cases hal : loc.any (· == a) = true <;> by_cases hbl : loc.any (· == b) = true
  · -- both are marked: what the local browse finds has one name
    obtain ⟨u, hu, hua⟩ := List.any_eq_true.mp hal
    obtain ⟨v, hv, hvb⟩ := List.any_eq_true.mp hbl
    rw [if_pos hal, if_pos hbl] at heq
    have hnames : N.nodeName a = N.nodeName b := by
      rw [← N.nodeName_congr u a hua, ← N.nodeName_congr v b hvb, hloc u hu v hv]
    rw [N.beq_of_clear a b heq hnames] at hab
    cases hab
  · rw [if_pos hal, if_neg hbl] at heq
    exact hname b hb ((N.nodeName_congr _ _ heq).symm.trans (N.nodeName_clear a))
  · rw [if_neg hal, if_pos hbl] at heq
    exact hname a ha ((N.nodeName_congr _ _ heq).trans (N.nodeName_clear b))
  · rw [if_neg hal, if_neg hbl, hab] at heq
    cases heq

omit [EquivBEq α] in
/-- What has another name than all that the local browse finds keeps its name. -/
theorem markLocal_of_ne {infos loc : List α}
    (h : ∀ a ∈ infos, ∀ l ∈ loc, N.nodeName l ≠ N.nodeName a) :
    markLocal N.clear infos loc = infos := by
  rw [markLocal]
  conv_rhs => rw [← List.map_id infos]
  refine List.map_congr_left fun a ha => if_neg fun hany => ?_
  obtain ⟨l, hl, hla⟩ := List.any_eq_true.mp hany
  exact h a ha l hl (N.nodeName_congr l a hla)

/-- What the local browse finds too loses its name. -/
theorem markLocal_of_subset {infos loc : List α} (h : infos ⊆ loc) :
    markLocal N.clear infos loc = infos.map N.clear := by
  rw [markLocal]
  refine List.map_congr_left fun a ha => if_pos ?_
  exact List.any_eq_true.mpr ⟨a, h ha, BEq.refl a⟩

omit [EquivBEq α] in
/-- What the browser lists: the records of its own machine and then all that is announced, host after
host, as far as it is in the session and without duplicates. -/
theorem discoverInfos_run (w : World ι α) {s : Impl} (hs : s.announcing = false) (t : Text)
    (natives : List ι) :
    R.discoverInfos w (natives.map .native ++ [.dnsSd]) s (some (browserFilter t)) =
      run (dedup N.merge) [] ((natives.flatMap w.infos ++
        markLocal N.clear (N.hosts w.all) (N.hosts w.loc)).filter (N.inSession t)) := by
  have hlists : (natives.map Registered.native ++ [Registered.dnsSd]).flatMap (R.discovered w) =
      natives.flatMap w.infos ++ markLocal N.clear (N.hosts w.all) (N.hosts w.loc) := by
    rw [List.flatMap_append, List.flatMap_map, List.flatMap_singleton, hosts, hosts, ← N.browse_eq]
    rfl
  rw [Resource.discoverInfos_eq, R.discover_idle w hs, hlists, N.run_browserFilter]

/-- Of announcements that differ, in other sessions than those of the own records, none is merged. -/
theorem run_apart {own infos loc : List α} (t : Text) (hd : Distinct infos)
    (hname : ∀ a ∈ infos, N.nodeName a ≠ [])
    (hloc : ∀ a ∈ loc, ∀ b ∈ loc, N.nodeName a = N.nodeName b)
    (hapart : ∀ a ∈ own, ∀ b ∈ infos, N.session a ≠ N.session b) :
    run (dedup N.merge) [] ((own ++ markLocal N.clear infos loc).filter (N.inSession t)) =
      run (dedup N.merge) [] (own.filter (N.inSession t)) ++
        markLocal N.clear (infos.filter (N.inSession t)) loc := by
  rw [List.filter_append, N.filter_markLocal, run_dedup_append N.isMerge]
  · refine N.distinct_markLocal (hd.sublist List.filter_sublist) (fun a ha => ?_) hloc
    exact hname a (List.mem_of_mem_filter ha)
  · intro a ha b hb
    by_contra hab
    rw [Bool.not_eq_false] at hab
    obtain ⟨c, hc, rfl⟩ := List.mem_map.mp hb
    apply hapart a (List.mem_of_mem_filter ha) c (List.mem_of_mem_filter hc)
    rw [N.session_congr a _ hab]
    split
    · exact N.session_clear c
    · rfl

end Records

/-- The records of GPUs. -/
def gpuRecords (M : Matchers) (U : Uint128Ops) (localNodeID : UInt128) :
    Records (gpuResource M U localNodeID) where
  merge := Gpu.mergeFlags
  nodeName info := info.nodeName
  session info := info.session
  clear info := { info with nodeName := [] }
  decode := Gpu.discoverHost U localNodeID
  isMerge := Gpu.mergeFlags_isMerge
  test_duplicate := rfl
  test_session _ := rfl
  browse_eq _ _ := rfl
  nodeName_congr _ _ h := (GPUInfo.beq_iff.mp h).1
  session_congr _ _ h := (GPUInfo.beq_iff.mp h).2.1
  nodeName_clear _ := rfl
  session_clear _ := rfl
  beq_of_clear _ _ h hname := GPUInfo.beq_iff.mpr ⟨hname, (GPUInfo.beq_iff.mp h).2⟩

/-- The records of network interfaces. -/
def netRecords (M : Matchers) (U : Uint128Ops) (localNodeID : UInt128) :
    Records (netResource M U localNodeID) where
  merge info _ := info
  nodeName info := info.nodeName
  session info := info.session
  clear info := { info with nodeName := [] }
  decode := Net.discoverHost U localNodeID
  isMerge := Net.keepFirst_isMerge
  test_duplicate := rfl
  test_session _ := rfl
  browse_eq _ _ := rfl
  nodeName_congr _ _ h := by rw [← NetInfo.beq_iff.mp h]
  session_congr _ _ h := by rw [← NetInfo.beq_iff.mp h]
  nodeName_clear _ := rfl
  session_clear _ := rfl
  beq_of_clear a b h hname := by
    obtain ⟨⟨_, _, _⟩, _, _, _, _, _, _, _, _⟩ := a
    obtain ⟨⟨_, _, _⟩, _, _, _, _, _, _, _, _⟩ := b
    rw [NetInfo.beq_iff] at h ⊢
    simp_all

end Hwsd
