import Hwsd.Functions

/-!
# Hwsd.FilterOrder

The order in which filters are chained, for the filters whose tests agree on equal records: all but
the mirror filter.

* `filter_order`: discovery with two chains of the same filters returns the same list, merged flags
  included, although a duplicate filter writes to the list that is being built and keeps a rejected
  record from the filters behind it.
-/

namespace Hwsd

open CxxStream Greedy DnsSd

section

variable {ι : Type} (M : Matchers) (U : Uint128Ops) (localNodeID : UInt128)

theorem discoverInfos_eq_seq {α : Type} (R : Resource α) (w : World ι α)
    (stack : List (Registered ι)) (s : Impl) (f : Filter) :
    R.discoverInfos w stack s (some f) =
      run (seq (f.leaves.map R.test)) [] (stack.flatMap (R.discover w s)) := by
  rw [Resource.discoverInfos_eq, selector, Filter.call_eq_seq]

theorem discoverGPUInfos_perm {f g : Filter} (h : f.leaves.Perm g.leaves)
    (hf : Leaf.mirror ∉ f.leaves) (w : World ι GPUInfo) (stack : List (Registered ι)) (s : Impl) :
    discoverGPUInfos M U localNodeID w stack s (some f) =
      discoverGPUInfos M U localNodeID w stack s (some g) := by
  rw [discoverGPUInfos, discoverGPUInfos, discoverInfos_eq_seq, discoverInfos_eq_seq]
  refine run_seq_perm Gpu.mergeFlags_isMerge ?_ (h.map _) _
  intro test htest
  obtain ⟨leaf, hleaf, rfl⟩ := List.mem_map.mp htest
  refine Gpu.isCheck_test M ?_
  rintro rfl
  exact hf hleaf

theorem discoverNetInfos_perm {f g : Filter} (h : f.leaves.Perm g.leaves) (w : World ι NetInfo)
    (stack : List (Registered ι)) (s : Impl) :
    discoverNetInfos M U localNodeID w stack s (some f) =
      discoverNetInfos M U localNodeID w stack s (some g) := by
  rw [discoverNetInfos, discoverNetInfos, discoverInfos_eq_seq, discoverInfos_eq_seq]
  refine run_seq_perm Net.keepFirst_isMerge ?_ (h.map _) _
  intro test htest
  obtain ⟨leaf, _, rfl⟩ := List.mem_map.mp htest
  exact Net.isCheck_test M leaf

end

/-- Two chains of the same filters, however they are ordered and nested, discover the same GPUs if
there is no mirror filter among them, and the same network interfaces. -/
theorem filter_order {ι : Type} (M : Matchers) (U : Uint128Ops) (localNodeID : UInt128)
    (f g : Filter) (h : f.leaves.Perm g.leaves) :
    (Leaf.mirror ∉ f.leaves → ∀ (w : World ι GPUInfo) (stack : List (Registered ι)) (s : Impl),
      discoverGPUInfos M U localNodeID w stack s (some f) =
        discoverGPUInfos M U localNodeID w stack s (some g)) ∧
    ∀ (w : World ι NetInfo) (stack : List (Registered ι)) (s : Impl),
      discoverNetInfos M U localNodeID w stack s (some f) =
        discoverNetInfos M U localNodeID w stack s (some g) :=
  ⟨fun hf => discoverGPUInfos_perm M U localNodeID h hf,
    discoverNetInfos_perm M U localNodeID h⟩

/-- A duplicate filter with a session and a GPU filter behind it, and the three in the opposite order
and with other brackets. -/
theorem filter_order_three :
    let M : Matchers := ⟨some fun regex name => decide (regex = name), none⟩
    let f := (Filter.duplicate ||| Filter.session (lit "default")) ||| ⟨.gpu (lit "node1:0.0"), []⟩
    let g := Filter.mk (.gpu (lit "node1:0.0")) [] |||
      (Filter.session (lit "default") ||| Filter.duplicate)
    (Leaf.mirror ∉ f.leaves → ∀ (w : World Empty GPUInfo) (stack : List (Registered Empty))
      (s : Impl), discoverGPUInfos M hexUint128 7 w stack s (some f) =
        discoverGPUInfos M hexUint128 7 w stack s (some g)) ∧
    ∀ (w : World Empty NetInfo) (stack : List (Registered Empty)) (s : Impl),
      discoverNetInfos M hexUint128 7 w stack s (some f) =
        discoverNetInfos M hexUint128 7 w stack s (some g) :=
  filter_order _ hexUint128 7 _ _ (by decide)

end Hwsd
