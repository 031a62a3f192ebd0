import Hwsd.Apps.Network
import Hwsd.Registry

/-!
# Hwsd.Apps.Registration

The calls of `use` and `dispose` that both programs make, on the registries of the two resources. The
other modules on these programs are about lists of modules; here they are what a loop over the chain
of a registry visits.

* `use_all`: the registry after modules have been used, for any storage that they get.
* `dispose_all`: nothing is left of it when they are disposed of.
-/

namespace Hwsd

open CxxStream DnsSd Registry

section

variable {ι : Type}

def useAll (storage : Registered ι → Addr) (stack : List (Registered ι)) : List (Op (Registered ι)) :=
  stack.map fun cls => .use cls (storage cls)

def disposeAll (stack : List (Registered ι)) : List (Op (Registered ι)) := stack.map .dispose

/-- A loop over the registry visits objects of these classes, in this order. -/
structure Walks [DecidableEq ι] (s : Modules (Registered ι)) (fuel : Nat)
    (stack : List (Registered ι)) : Prop where
  visits : ∃ modules, s.visited fuel = some modules ∧
    modules.map (fun module => (s.heap module).map Object.cls) = stack.map some
  discovers : ∀ {α : Type} (R : Resource α) (w : World ι α) (impl : Impl) (filter : Option Filter),
    discoverLoop R w impl filter s fuel = some (R.discoverInfos w stack impl filter)

/-- Nothing is left of a registry. -/
structure Unused (s : Modules (Registered ι)) : Prop where
  stack_ : s.stack_ = none
  instance_ : ∀ cls, s.instance_ cls = none
  heap : ∀ a, s.heap a = none

end

namespace Daemon

variable (d : Daemon) (storage : Registered GPUModule → Addr)
  (netStorage : Registered NetModule → Addr)

/-- The GPU modules that are used under the name of the program. -/
def usedGPUs : List (Registered GPUModule) :=
  if d.executable ≠ lit "net_sd" then d.gpuStack else []

def usedNets : List (Registered NetModule) :=
  if d.executable ≠ lit "gpu_sd" then netStack else []

def gpuUses : List (Op (Registered GPUModule)) := useAll storage d.usedGPUs

def netUses : List (Op (Registered NetModule)) := useAll netStorage d.usedNets

/-- At the end of `main`, under whatever name it runs. -/
def gpuDisposes : List (Op (Registered GPUModule)) := disposeAll d.gpuStack

def netDisposes : List (Op (Registered NetModule)) := disposeAll netStack

end Daemon

namespace Browser

variable (b : Browser) (storage : Registered GPUModule → Addr)
  (netStorage : Registered NetModule → Addr)

def usedGPUs : List (Registered GPUModule) :=
  b.gpuModules.map .native ++ if b.executable ≠ lit "net_sd_list" then [.dnsSd] else []

def usedNets : List (Registered NetModule) :=
  b.netModules.map .native ++ if b.executable ≠ lit "gpu_sd_list" then [.dnsSd] else []

def gpuUses : List (Op (Registered GPUModule)) := useAll storage b.usedGPUs

def netUses : List (Op (Registered NetModule)) := useAll netStorage b.usedNets

end Browser

/-! ## Registries -/

section

variable {ι : Type} [DecidableEq ι] {storage : Registered ι → Addr}

/-- The live modules after these classes have been used. -/
def usedBy (storage : Registered ι → Addr) (stack : List (Registered ι)) :
    List (Addr × Registered ι) :=
  stack.map fun cls => (storage cls, cls)

omit [DecidableEq ι] in
theorem usedBy_snd (stack : List (Registered ι)) : (usedBy storage stack).map Prod.snd = stack := by
  rw [usedBy, List.map_map]
  exact List.map_id stack

theorem liveAfter_useAll (hinj : Function.Injective storage) (pre stack : List (Registered ι))
    (hnodup : (pre ++ stack).Nodup) :
    LegalRun (fun _ => true) (usedBy storage pre) (useAll storage stack) ∧
      liveAfter (usedBy storage pre) (useAll storage stack) = usedBy storage (pre ++ stack) := by
  induction stack generalizing pre with
  | nil => exact ⟨trivial, by rw [List.append_nil]; rfl⟩
  | cons cls stack ih =>
    have hcls : cls ∉ pre := by
      intro hmem
      exact (List.nodup_append.mp hnodup).2.2 cls hmem cls (List.mem_cons_self ..) rfl
    have hstep : liveStep (usedBy storage pre) (.use cls (storage cls)) =
        usedBy storage (pre ++ [cls]) := by
      rw [liveStep, usedBy_snd, if_neg hcls, usedBy, usedBy, List.map_append]
      rfl
    have hfresh : storage cls ∉ (usedBy storage pre).map Prod.fst := by
      rw [usedBy, List.map_map, List.mem_map]
      rintro ⟨other, hother, heq⟩
      exact hcls (hinj heq ▸ hother)
    rw [List.append_cons] at hnodup
    obtain ⟨hlegal, hlive⟩ := ih (pre ++ [cls]) hnodup
    refine ⟨⟨⟨rfl, fun _ => hfresh⟩, ?_⟩, ?_⟩
    · rw [hstep]
      exact hlegal
    · rw [List.append_cons, ← hlive, ← hstep]
      rfl

theorem liveAfter_disposeAll (live : List (Addr × Registered ι)) (stack : List (Registered ι)) :
    LegalRun (fun _ => true) live (disposeAll stack) ∧
      liveAfter live (disposeAll stack) = live.filter fun m => m.2 ∉ stack := by
  induction stack generalizing live with
  | nil => exact ⟨trivial, by simp [liveAfter, disposeAll]⟩
  | cons cls stack ih =>
    obtain ⟨hlegal, hlive⟩ := ih (live.filter fun m => m.2 ≠ cls)
    refine ⟨⟨rfl, hlegal⟩, ?_⟩
    rw [disposeAll, List.map_cons, liveAfter, List.foldl_cons]
    refine hlive.trans ?_
    rw [List.filter_filter]
    refine List.filter_congr fun m _ => ?_
    simp [Bool.and_comm]

omit [DecidableEq ι] in
theorem unused_of_registers {isSingleton : Registered ι → Bool} {s : Modules (Registered ι)}
    (h : Registers isSingleton s []) : Unused s where
  stack_ := h.chain
  instance_ cls := by
    rw [Option.eq_none_iff_forall_ne_some]
    intro a ha
    exact absurd ((h.single cls a).mp ha).2 List.not_mem_nil
  heap a := by
    rw [Option.eq_none_iff_forall_ne_some]
    intro o ho
    have hobject := (h.object a o.cls).mp (by rw [ho]; rfl)
    exact absurd hobject List.not_mem_nil

theorem use_all (hinj : Function.Injective storage) {stack : List (Registered ι)}
    (hnodup : stack.Nodup) (fuel : Nat) (hf : stack.length < fuel) :
    ∃ s, Modules.empty.run fuel (useAll storage stack) = some s ∧
      Registers (fun _ => true) s (usedBy storage stack) ∧ Walks s fuel stack := by
  obtain ⟨hlegal, hlive⟩ := liveAfter_useAll hinj [] stack hnodup
  have hops : (usedBy storage []).length + (useAll storage stack).length < fuel := by
    rwa [usedBy, useAll, List.map_nil, List.length_nil, List.length_map, Nat.zero_add]
  obtain ⟨s, hs, hreg, _⟩ := run_ok registers_empty hops hlegal
  have hreg' : Registers (fun _ => true) s (usedBy storage stack) := by
    have hall : liveAfter [] (useAll storage stack) = usedBy storage stack := hlive
    rwa [hall] at hreg
  have hlen : (usedBy storage stack).length < fuel := by rwa [usedBy, List.length_map]
  refine ⟨s, hs, hreg', ⟨_, Chain.walk_of_seg hreg'.chain (by rwa [List.length_map]), ?_⟩, ?_⟩
  · rw [usedBy, List.map_map, List.map_map]
    refine List.map_congr_left fun cls hcls => ?_
    exact (hreg'.object _ cls).mpr (List.mem_map.mpr ⟨cls, hcls, rfl⟩)
  · intro α R w impl filter
    rw [discoverLoop_eq R w impl filter hreg' hlen, usedBy_snd]

theorem dispose_all {s : Modules (Registered ι)} {stack classes : List (Registered ι)}
    (h : Registers (fun _ => true) s (usedBy storage stack)) (hsub : stack ⊆ classes) (fuel : Nat)
    (hf : stack.length + classes.length < fuel) :
    ∃ s', s.run fuel (disposeAll classes) = some s' ∧ Unused s' := by
  obtain ⟨hlegal, hlive⟩ := liveAfter_disposeAll (usedBy storage stack) classes
  have hops : (usedBy storage stack).length + (disposeAll classes).length < fuel := by
    rwa [usedBy, disposeAll, List.length_map, List.length_map]
  obtain ⟨s', hs', hreg, _⟩ := run_ok h hops hlegal
  have hnone : (usedBy storage stack).filter (fun m => m.2 ∉ classes) = [] := by
    rw [List.filter_eq_nil_iff]
    intro m hm
    obtain ⟨cls, hcls, rfl⟩ := List.mem_map.mp hm
    simpa using hsub hcls
  rw [hlive, hnone] at hreg
  exact ⟨s', hs', unused_of_registers hreg⟩

end

/-! ## The programs -/

theorem Build.nodup_modules (build : Build) : build.modules.Nodup := by
  obtain ⟨cgl, glx, wgl⟩ := build
  cases cgl <;> cases glx <;> cases wgl <;> decide

theorem Build.length_modules (build : Build) : build.modules.length ≤ 3 := by
  obtain ⟨cgl, glx, wgl⟩ := build
  cases cgl <;> cases glx <;> cases wgl <;> decide

/-- Native modules, and the dns_sd module behind them if it is used. -/
theorem nodup_used {ι : Type} {modules : List ι} (h : modules.Nodup) (p : Prop) [Decidable p] :
    (modules.map Registered.native ++ if p then [Registered.dnsSd] else []).Nodup := by
  have hnative : (modules.map Registered.native).Nodup := h.map fun i j hij => Registered.native.inj hij
  split
  · refine hnative.append (List.nodup_singleton _) fun cls hcls hdns => ?_
    obtain ⟨i, _, rfl⟩ := List.mem_map.mp hcls
    simp at hdns
  · rwa [List.append_nil]

namespace Daemon

theorem nodup_gpuStack (d : Daemon) : d.gpuStack.Nodup := nodup_used d.build.nodup_modules True

theorem length_gpuStack (d : Daemon) : d.gpuStack.length ≤ 4 := by
  have hlen := d.build.length_modules
  rw [gpuStack, List.length_append, List.length_map, List.length_singleton]
  omega

theorem usedGPUs_sublist (d : Daemon) : d.usedGPUs.Sublist d.gpuStack := by
  unfold usedGPUs
  split
  · exact List.Sublist.refl _
  · exact List.nil_sublist _

theorem usedNets_sublist (d : Daemon) : d.usedNets.Sublist netStack := by
  unfold usedNets
  split
  · exact List.Sublist.refl _
  · exact List.nil_sublist _

end Daemon

namespace Browser

variable (b : Browser)

theorem nodup_usedGPUs : b.usedGPUs.Nodup := by
  refine nodup_used ?_ _
  unfold gpuModules
  split
  · exact b.build.nodup_modules
  · exact List.nodup_nil

theorem nodup_usedNets : b.usedNets.Nodup := by
  refine nodup_used ?_ _
  unfold netModules
  split
  · exact List.nodup_singleton _
  · exact List.nodup_nil

theorem length_usedGPUs : b.usedGPUs.length ≤ 4 := by
  have hlen := b.build.length_modules
  have hmodules : b.gpuModules.length ≤ 3 := by
    unfold gpuModules
    split
    · exact hlen
    · simp
  unfold usedGPUs
  split <;> simp <;> omega

theorem length_usedNets : b.usedNets.length ≤ 4 := by
  unfold usedNets netModules
  split <;> split <;> simp

end Browser

/-- The loops of `hw_sd` and `hw_sd_list` over the registries visit the modules that the models of
these programs go over, wherever the modules are stored; a `hw_sd` that ends leaves both registries
empty, under whatever name it runs. -/
theorem registries_walked (d : Daemon) (b : Browser) (storage : Registered GPUModule → Addr)
    (netStorage : Registered NetModule → Addr) (hinj : Function.Injective storage)
    (hinj' : Function.Injective netStorage) (fuel : Nat) (hfuel : 8 < fuel) :
    (∃ s s', Modules.empty.run fuel (d.gpuUses storage) = some s ∧ Walks s fuel d.usedGPUs ∧
      s.run fuel d.gpuDisposes = some s' ∧ Unused s') ∧
    (∃ s s', Modules.empty.run fuel (d.netUses netStorage) = some s ∧ Walks s fuel d.usedNets ∧
      s.run fuel Daemon.netDisposes = some s' ∧ Unused s') ∧
    (∃ s, Modules.empty.run fuel (b.gpuUses storage) = some s ∧ Walks s fuel b.usedGPUs) ∧
    ∃ s, Modules.empty.run fuel (b.netUses netStorage) = some s ∧ Walks s fuel b.usedNets := by
  have hgpus := d.usedGPUs_sublist
  have hnets := d.usedNets_sublist
  have hgpusLen := d.length_gpuStack
  have hgpusLe := hgpus.length_le
  have hnetsLe : d.usedNets.length ≤ 2 := hnets.length_le
  refine ⟨?_, ?_, ?_, ?_⟩
  · obtain ⟨s, hs, hreg, hwalks⟩ :=
      use_all hinj (d.nodup_gpuStack.sublist hgpus) fuel (by omega)
    obtain ⟨s', hs', hunused⟩ := dispose_all hreg hgpus.subset fuel (by omega)
    exact ⟨s, s', hs, hwalks, hs', hunused⟩
  · have hnodup : Daemon.netStack.Nodup := by decide
    have hlen : Daemon.netStack.length = 2 := rfl
    obtain ⟨s, hs, hreg, hwalks⟩ := use_all hinj' (hnodup.sublist hnets) fuel (by omega)
    obtain ⟨s', hs', hunused⟩ := dispose_all hreg hnets.subset fuel (by omega)
    exact ⟨s, s', hs, hwalks, hs', hunused⟩
  · have hlen := b.length_usedGPUs
    obtain ⟨s, hs, _, hwalks⟩ := use_all hinj b.nodup_usedGPUs fuel (by omega)
    exact ⟨s, hs, hwalks⟩
  · have hlen := b.length_usedNets
    obtain ⟨s, hs, _, hwalks⟩ := use_all hinj' b.nodup_usedNets fuel (by omega)
    exact ⟨s, hs, hwalks⟩

/-- Where the modules of a build are stored. -/
def oneStorage : Registered GPUModule → Addr
  | .dnsSd => 16
  | .native .cgl => 32
  | .native .glx => 48
  | .native .wgl => 64

def oneNetStorage : Registered NetModule → Addr
  | .dnsSd => 80
  | .native .sys => 96

theorem oneStorage_injective : Function.Injective oneStorage := by
  intro a b h
  rcases a with _ | ⟨⟨⟩⟩ <;> rcases b with _ | ⟨⟨⟩⟩ <;> first | rfl | cases h

theorem oneNetStorage_injective : Function.Injective oneNetStorage := by
  intro a b h
  rcases a with _ | ⟨⟨⟩⟩ <;> rcases b with _ | ⟨⟨⟩⟩ <;> first | rfl | cases h

theorem registries_walked_one :
    (∃ s s', Modules.empty.run 9 (oneDaemon.gpuUses oneStorage) = some s ∧
      Walks s 9 oneDaemon.usedGPUs ∧ s.run 9 oneDaemon.gpuDisposes = some s' ∧ Unused s') ∧
    (∃ s s', Modules.empty.run 9 (oneDaemon.netUses oneNetStorage) = some s ∧
      Walks s 9 oneDaemon.usedNets ∧ s.run 9 Daemon.netDisposes = some s' ∧ Unused s') ∧
    (∃ s, Modules.empty.run 9 (oneBrowser.gpuUses oneStorage) = some s ∧
      Walks s 9 oneBrowser.usedGPUs) ∧
    ∃ s, Modules.empty.run 9 (oneBrowser.netUses oneNetStorage) = some s ∧
      Walks s 9 oneBrowser.usedNets :=
  registries_walked oneDaemon oneBrowser oneStorage oneNetStorage oneStorage_injective
    oneNetStorage_injective 9 (by decide)

end Hwsd
