import Mathlib.Data.List.Perm.Basic
import Hwsd.Functions

/-!
# Hwsd.Duplicates

Default discovery of GPUs is an exact deduplication that merges flags.

* `gather_mergeFlags`: what the `DuplicateFilter` leaves of a GPU when the loop has gone over a
  list.
* `discoverGPUInfos_duplicate`: the returned list, for any modules and any lists they discover, and
  what remains of it when the modules are registered in another order.
-/

namespace Hwsd
namespace Gpu

open CxxStream Greedy DnsSd

/-- All flags that some GPU of the list has. -/
def orFlags : List GPUInfo → UInt32
  | [] => 0
  | info :: infos => info.flags ||| orFlags infos

def clearFlags (info : GPUInfo) : GPUInfo := { info with flags := 0 }

theorem orFlags_perm {l l' : List GPUInfo} (h : l.Perm l') : orFlags l = orFlags l' := by
  induction h with
  | nil => rfl
  | cons a _ ih => rw [orFlags, orFlags, ih]
  | swap a b l =>
    simp only [orFlags]
    rw [← UInt32.or_assoc, ← UInt32.or_assoc, UInt32.or_comm b.flags]
  | trans _ _ ih ih' => exact ih.trans ih'

theorem or_orFlags_of_mem {a : GPUInfo} {l : List GPUInfo} (h : a ∈ l) :
    a.flags ||| orFlags l = orFlags l := by
  induction l with
  | nil => simp at h
  | cons b l ih =>
    rw [orFlags]
    rcases List.mem_cons.mp h with rfl | h
    · rw [← UInt32.or_assoc, UInt32.or_self]
    · rw [← UInt32.or_assoc, UInt32.or_comm a.flags, UInt32.or_assoc, ih h]

theorem foldl_mergeFlags (l : List GPUInfo) (a : GPUInfo) :
    l.foldl mergeFlags a = { a with flags := a.flags ||| orFlags l } := by
  induction l generalizing a with
  | nil => simp [orFlags]
  | cons b l ih => simp only [List.foldl_cons, ih, mergeFlags, orFlags, UInt32.or_assoc]

theorem gather_mergeFlags {xs : List GPUInfo} {a : GPUInfo} (h : a ∈ xs) :
    gather mergeFlags xs a = { a with flags := orFlags (xs.filter (· == a)) } := by
  have ha : a ∈ xs.filter (· == a) := List.mem_filter.mpr ⟨h, BEq.refl a⟩
  rw [gather, foldl_mergeFlags, or_orFlags_of_mem ha]

theorem filter_beq_congr {a b : GPUInfo} (h : (a == b) = true) (xs : List GPUInfo) :
    xs.filter (· == a) = xs.filter (· == b) :=
  List.filter_congr fun c _ => beq_congr_right h c

section Run

variable {xs : List GPUInfo}

theorem mem_run_dedup {info : GPUInfo} : info ∈ run (dedup mergeFlags) [] xs ↔
    ∃ a ∈ xs.eraseDups, info = { a with flags := orFlags (xs.filter (· == a)) } := by
  rw [run_dedup mergeFlags_isMerge, List.mem_map]
  constructor
  · rintro ⟨a, ha, rfl⟩
    exact ⟨a, ha, gather_mergeFlags (eraseDups_subset xs a ha)⟩
  · rintro ⟨a, ha, rfl⟩
    exact ⟨a, ha, gather_mergeFlags (eraseDups_subset xs a ha)⟩

theorem clearFlags_run_dedup :
    (run (dedup mergeFlags) [] xs).map clearFlags = xs.eraseDups.map clearFlags := by
  rw [run_dedup mergeFlags_isMerge, List.map_map]
  refine List.map_congr_left fun a ha => ?_
  rw [Function.comp, gather_mergeFlags (eraseDups_subset xs a ha)]
  rfl

theorem beq_setFlags (a : GPUInfo) (flags : UInt32) :
    (({ a with flags := flags } : GPUInfo) == a) = true := by
  simp [GPUInfo.beq_iff]

theorem flags_run_dedup {info : GPUInfo} (h : info ∈ run (dedup mergeFlags) [] xs) :
    info.flags = orFlags (xs.filter (· == info)) := by
  obtain ⟨a, ha, rfl⟩ := mem_run_dedup.mp h
  exact congrArg orFlags (filter_beq_congr (BEq.symm (beq_setFlags a _)) xs)

/-- A list in another order is deduplicated to the same classes with the same flags. -/
theorem exists_run_dedup_perm {ys : List GPUInfo} (hp : xs.Perm ys) {info : GPUInfo}
    (h : info ∈ run (dedup mergeFlags) [] xs) : ∃ info' ∈ run (dedup mergeFlags) [] ys,
      (info' == info) = true ∧ info'.flags = info.flags := by
  obtain ⟨a, ha, rfl⟩ := mem_run_dedup.mp h
  have hy : a ∈ ys := hp.subset (eraseDups_subset xs a ha)
  obtain ⟨b, hb, hba⟩ := exists_eraseDups_beq ys a hy
  refine ⟨_, mem_run_dedup.mpr ⟨b, hb, rfl⟩, ?_, ?_⟩
  · exact BEq.trans (beq_setFlags b _) (BEq.trans hba (BEq.symm (beq_setFlags a _)))
  · show orFlags (ys.filter (· == b)) = orFlags (xs.filter (· == a))
    rw [filter_beq_congr hba]
    exact orFlags_perm (hp.filter _).symm

end Run

/-- With a duplicate filter, discovery returns the first occurrence of each class of equal GPUs,
in order, with the flags of the whole class; the order of the modules decides neither the classes
nor their flags. -/
theorem discoverGPUInfos_duplicate {ι : Type} (M : Matchers) (U : Uint128Ops)
    (localNodeID : UInt128) (w : World ι GPUInfo) (stack : List (Registered ι)) (s : Impl) :
    let discovered := stack.flatMap ((gpuResource M U localNodeID).discover w s)
    let result := discoverGPUInfos M U localNodeID w stack s (some Filter.duplicate)
    Distinct result ∧
      result.map clearFlags = discovered.eraseDups.map clearFlags ∧
      (∀ info ∈ result, info.flags = orFlags (discovered.filter (· == info))) ∧
      ∀ stack' : List (Registered ι), stack'.Perm stack →
        let result' := discoverGPUInfos M U localNodeID w stack' s (some Filter.duplicate)
        (∀ info ∈ result, ∃ info' ∈ result', (info' == info) = true ∧ info'.flags = info.flags) ∧
          ∀ info' ∈ result', ∃ info ∈ result,
            (info == info') = true ∧ info.flags = info'.flags := by
  intro discovered result
  have hrun : ∀ stack' : List (Registered ι),
      discoverGPUInfos M U localNodeID w stack' s (some Filter.duplicate) =
        run (dedup mergeFlags) []
          (stack'.flatMap ((gpuResource M U localNodeID).discover w s)) := by
    intro stack'
    rw [discoverGPUInfos, Resource.discoverInfos_eq, selector, Filter.call_duplicate]
    rfl
  have hres : result = run (dedup mergeFlags) [] discovered := hrun stack
  refine ⟨?_, ?_, ?_, ?_⟩
  · rw [hres]
    exact run_dedup_distinct mergeFlags_isMerge discovered
  · rw [hres]
    exact clearFlags_run_dedup
  · intro info hinfo
    rw [hres] at hinfo
    exact flags_run_dedup hinfo
  · intro stack' hstack result'
    have hperm := hstack.flatMap_right ((gpuResource M U localNodeID).discover w s)
    have hres' : result' = run (dedup mergeFlags) []
        (stack'.flatMap ((gpuResource M U localNodeID).discover w s)) := hrun stack'
    rw [hres, hres']
    exact ⟨fun info => exists_run_dedup_perm hperm.symm, fun info => exists_run_dedup_perm hperm⟩

end Gpu
end Hwsd
