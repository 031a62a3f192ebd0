import Hwsd.Lib.Settled
import Hwsd.Duplicates

/-!
# Hwsd.Idempotent

Discovery from what has been discovered. A duplicate filter rewrites flags of accepted GPUs, but no
filter looks at flags, and none writes when it lets a candidate through.

* `Gpu.blind_test`, `Net.blind_test`: what the tests of the filter classes look at and write.
* `discover_idempotent`: modules that discover the result of a discovery make the same chain return
  it unchanged.
-/

namespace Hwsd

open CxxStream Greedy DnsSd

namespace Gpu

theorem eq_of_clearFlags {a a' : GPUInfo} (h : clearFlags a = clearFlags a') :
    a.toNodeInfo = a'.toNodeInfo ∧ a.type = a'.type ∧ a.port = a'.port ∧ a.device = a'.device ∧
      a.pvp = a'.pvp := by
  simpa [clearFlags] using h

theorem beq_congr_clearFlags (a a' b b' : GPUInfo) (ha : clearFlags a = clearFlags a')
    (hb : clearFlags b = clearFlags b') : (a == b) = (a' == b') := by
  have hclear : ∀ c : GPUInfo, (c == clearFlags c) = true := by
    intro c
    simp [GPUInfo.beq_iff, clearFlags]
  rw [beq_congr_left (hclear a), beq_congr_right (hclear b), ha, hb,
    ← beq_congr_right (hclear b'), ← beq_congr_left (hclear a')]

theorem mirrors_congr_clearFlags (a a' b b' : GPUInfo) (ha : clearFlags a = clearFlags a')
    (hb : clearFlags b = clearFlags b') : decide (Mirrors a b) = decide (Mirrors a' b') := by
  have hclear : ∀ c d : GPUInfo, Mirrors (clearFlags c) (clearFlags d) ↔ Mirrors c d :=
    fun _ _ => Iff.rfl
  rw [decide_eq_decide, ← hclear a b, ha, hb, hclear]

/-- No filter looks at flags, and a duplicate filter writes nothing else. -/
theorem blind_test (M : Matchers) (leaf : Leaf) : Blind clearFlags (test M leaf) := by
  cases leaf with
  | base => exact blind_pass fun _ _ _ => rfl
  | duplicate => exact blind_dedup (fun _ _ => rfl) beq_congr_clearFlags
  | mirror => exact blind_thin mirrors_congr_clearFlags
  | session name =>
    refine blind_pass fun a b hab => ?_
    rw [(eq_of_clearFlags hab).1]
  | gpu regex =>
    rw [test]
    split
    · refine blind_pass fun a b hab => ?_
      obtain ⟨hnode, _, hport, hdevice, _⟩ := eq_of_clearFlags hab
      rw [filterName, filterName, hnode, hport, hdevice]
    · exact blind_pass fun _ _ _ => rfl
  | net prefixes type => exact blind_pass fun _ _ _ => rfl

end Gpu

/-- No filter writes to a list of network interfaces. -/
theorem Net.blind_test (M : Matchers) (leaf : Leaf) : Blind id (Net.test M leaf) := by
  have hpass : ∀ p : NetInfo → Bool, Blind id (pass p) := by
    intro p
    refine blind_pass fun a b hab => ?_
    rw [show a = b from hab]
  cases leaf with
  | duplicate =>
    refine blind_dedup (fun _ _ => rfl) fun a a' b b' ha hb => ?_
    rw [show a = a' from ha, show b = b' from hb]
  | base => exact hpass _
  | mirror => exact hpass _
  | session name => exact hpass _
  | gpu regex => exact hpass _
  | net prefixes type => exact hpass _

theorem blind_call {α β : Type} {test : Leaf → Selector α} {k : α → β}
    (h : ∀ leaf, Blind k (test leaf)) (f : Filter) : Blind k (f.call test) := by
  rw [Filter.call_eq_seq]
  refine blind_seq fun test htest => ?_
  obtain ⟨leaf, _, rfl⟩ := List.mem_map.mp htest
  exact h leaf

theorem Resource.discoverInfos_twice {ι ι' α β : Type} (R : Resource α) {k : α → β}
    (h : ∀ leaf, Blind k (R.test leaf)) (f : Filter) {w : World ι α} {stack : List (Registered ι)}
    {s : Impl} {w' : World ι' α} {stack' : List (Registered ι')} {s' : Impl}
    (hagain : stack'.flatMap (R.discover w' s') = R.discoverInfos w stack s (some f)) :
    R.discoverInfos w' stack' s' (some f) = R.discoverInfos w stack s (some f) := by
  rw [discoverInfos_eq, hagain, discoverInfos_eq, selector]
  exact run_run (blind_call h f) _

/-- If the modules discover just what a discovery with a chain of filters has returned, another one
with this chain returns it as it is, flags included. -/
theorem discover_idempotent {ι ι' : Type} (M : Matchers) (U : Uint128Ops) (localNodeID : UInt128)
    (f : Filter) (stack : List (Registered ι)) (stack' : List (Registered ι')) (s s' : Impl) :
    (∀ (w : World ι GPUInfo) (w' : World ι' GPUInfo),
      let result := discoverGPUInfos M U localNodeID w stack s (some f)
      stack'.flatMap ((gpuResource M U localNodeID).discover w' s') = result →
        discoverGPUInfos M U localNodeID w' stack' s' (some f) = result) ∧
    ∀ (w : World ι NetInfo) (w' : World ι' NetInfo),
      let result := discoverNetInfos M U localNodeID w stack s (some f)
      stack'.flatMap ((netResource M U localNodeID).discover w' s') = result →
        discoverNetInfos M U localNodeID w' stack' s' (some f) = result :=
  ⟨fun _ _ hagain => Resource.discoverInfos_twice _ (Gpu.blind_test M) f hagain,
    fun _ _ hagain => Resource.discoverInfos_twice _ (Net.blind_test M) f hagain⟩

/-- A call during which the one native module discovers the list. -/
def World.native {α : Type} (infos : List α) : World Unit α := ⟨fun _ => infos, ∅, ∅, true⟩

/-- Two equal GPUs with different flags and one of another type, and one interface twice. -/
theorem discover_idempotent_merged :
    let M : Matchers := ⟨none, none⟩
    let f := Filter.duplicate ||| (Filter.mirror ||| Filter.session [])
    let gpu := GPUInfo.ofName 7 (lit "GLX")
    let gpus := [{ gpu with flags := 1 }, GPUInfo.ofName 8 (lit "WGLn"), { gpu with flags := 4 }]
    let s : Impl := ⟨⟨∅, GPU⟩, false⟩
    let result := discoverGPUInfos M hexUint128 7 (.native gpus) [.native ()] s (some f)
    let nets := [NetInfo.new 7, NetInfo.new 7]
    let s' : Impl := ⟨⟨∅, NET⟩, false⟩
    let result' := discoverNetInfos M hexUint128 7 (.native nets) [.native ()] s' (some f)
    discoverGPUInfos M hexUint128 7 (.native result) [.native ()] s (some f) = result ∧
      discoverNetInfos M hexUint128 7 (.native result') [.native ()] s' (some f) = result' := by
  intro M f gpu gpus s result nets s' result'
  have hgpu := discover_idempotent M hexUint128 7 f [.native ()] [.native ()] s s
  have hnet := discover_idempotent M hexUint128 7 f [.native ()] [.native ()] s' s'
  exact ⟨hgpu.1 _ _ (List.append_nil _), hnet.2 _ _ (List.append_nil _)⟩

end Hwsd
